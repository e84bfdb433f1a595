import Redline.Proofs.Workspace.WellFormed

/-!
# The focused file

A workspace remembers the file that was focused by its path relative to the root, and every later
reading resolves this path anew. The path is made of the names on the way from the root to the
place of the file, behind all links, so it leads to that place as long as a file stands there,
whatever else becomes of the tree, also of the links over which the file was found.

There is one exception. A file that stands in the root itself and whose name is white space can be
focused along a longer path, such as `./ `, but its relative path is blank, and blank paths are
refused before they are resolved.
-/

namespace Redline

open FileTree Route Text

namespace Workspace

variable {w w' : Workspace} {path r s : String} {p : TreePath} {e : WorkspaceError}

/-! ## Focusing -/

def focusing (w : Workspace) (path : String) : Except WorkspaceError String × Workspace :=
  match w.focusOn path with
  | .ok (r, w') => (.ok r, w')
  | .error e => (.error e, w)

theorem focusing_eq_ok (h : (w.focusing path).1 = .ok r) :
    ∃ p, w.tree.realPath (w.route path) = .ok p ∧ w.holds p = true ∧ w.tree.isFile p = true ∧
      r = w.relative p ∧ (w.focusing path).2 = { w with focus := some r } := by
  simp only [focusing, focusOn, bind, Except.bind] at h ⊢
  cases hresolve : w.resolveExisting path with
  | error e => simp [hresolve] at h
  | ok p =>
    obtain ⟨-, hpath, hholds⟩ := resolveExisting_eq_ok.mp hresolve
    by_cases hfile : w.tree.isFile p = true
    · simp only [hresolve, hfile, if_true] at h ⊢
      obtain rfl := Except.ok.inj h
      exact ⟨p, hpath, hholds, hfile, rfl, rfl⟩
    · simp [hresolve, hfile] at h

theorem focusing_eq_error (h : (w.focusing path).1 = .error e) : (w.focusing path).2 = w := by
  rw [focusing] at h ⊢
  split at h
  next => exact absurd h nofun
  next => rfl

/-! ## Relative paths -/

/-- The root of every workspace that is made can be spelled. -/
theorem spellable_root {tree : FileTree} {base : TreePath} (hbase : Spellable base)
    (h : ofPath tree base path = .ok w) : Spellable w.root := by
  rw [ofPath] at h
  split at h
  next => exact absurd h nofun
  next root hroot =>
    split at h
    next =>
      obtain rfl := Except.ok.inj h
      have hpath : tree.realPath (ofText base path) = .ok root := by
        split at hroot
        · exact absurd hroot nofun
        · exact hroot
      obtain ⟨-, hwalk | ⟨content, hwalk⟩⟩ := realPath_iff.mp hpath
      · exact (walk_iff.mp hwalk).spellable nofun (spellable_ofText hbase)
      · exact (walk_iff.mp hwalk).spellable nofun (spellable_ofText hbase)
    next => exact absurd h nofun

/-- A place has no name in the workspace that could be asked for: it is the root, or it stands in
the root and its name is white space. -/
def Nameless (w : Workspace) (p : TreePath) : Prop :=
  p = w.root ∨ ∃ name, p = w.root ++ [name] ∧ isBlankText name = true

theorem exists_names (h : w.holds p = true) : ∃ names, p = w.root ++ names := by
  obtain ⟨names, hnames⟩ := List.isPrefixOf_iff_prefix.mp h
  exact ⟨names, hnames.symm⟩

theorem relative_append (names : List String) :
    w.relative (w.root ++ names) = joinWith "/" names := by
  rw [relative, List.drop_left]

/-- Two names have a slash between them, which is no white space. -/
theorem isBlankText_relative_iff (h : w.holds p = true) :
    isBlankText (w.relative p) = true ↔ w.Nameless p := by
  obtain ⟨names, rfl⟩ := exists_names h
  rw [relative_append, Nameless, List.append_right_eq_self]
  simp only [List.append_cancel_left_eq]
  match names with
  | [] => exact iff_of_true rfl (.inl rfl)
  | [name] => simp [joinWith]
  | first :: second :: more =>
    refine iff_of_false (fun hblank ↦ ?_) (by simp)
    have hslash : '/' ∈ (joinWith "/" (first :: second :: more)).toList := by
      rw [joinWith, String.toList_intercalate, List.map_cons, List.map_cons,
        List.intercalate_cons_cons]
      exact List.mem_append_left _ (List.mem_append_right _ (List.mem_singleton_self _))
    exact absurd (List.all_eq_true.mp hblank _ hslash) (by decide)

theorem route_relative (hholds : w.holds p = true) (hne : p ≠ w.root)
    (hspellable : Spellable p) (hnames : ∀ name ∈ p, IsName name) :
    w.route (w.relative p) = p := by
  obtain ⟨names, rfl⟩ := exists_names hholds
  have hne' : names ≠ [] := fun hnil ↦ hne (by rw [hnil, List.append_nil])
  have hspelled := (spellable_append.mp hspellable).2
  have hrelative : (joinWith "/" names).toList.head? ≠ some '/' := by
    rw [joinWith, String.toList_intercalate]
    refine head?_intercalate_ne (List.forall_mem_map.mpr fun name hname ↦ ⟨?_, hspelled name hname⟩)
    have hidle := (hnames name (List.mem_append_right _ hname)).not_idle
    rwa [← String.ofList_toList (s := name), isIdle_ofList, Bool.not_eq_false'] at hidle
  rw [relative_append, route, ofText]
  split
  next rest hslash => exact absurd (by rw [hslash, List.head?_cons]) hrelative
  next => rw [splitAll_joinWith hspelled hne']

/-! ## Later states -/

/-- What may become of a workspace as long as no other file is focused and the focus is kept. -/
inductive Later (w : Workspace) : Workspace → Prop
  | refl : Later w w
  | read {v : Workspace} (path : String) : Later w v → Later w (surface.read path v).2
  | active {v : Workspace} : Later w v → Later w (surface.active v).2
  /-- A file is replaced, or cannot be. -/
  | replace {v : Workspace} (path content : String) : Later w v →
    Later w (surface.replace path content v).2
  /-- A batch is written, or cannot be. -/
  | batch {v : Workspace} (edits : List FileEdit) : Later w v → Later w (surface.batch edits v).2
  /-- A file cannot be focused. -/
  | refused {v : Workspace} (path : String) (e : WorkspaceError) :
    (v.focusing path).1 = .error e → Later w v → Later w (v.focusing path).2
  /-- The tree is changed by others. -/
  | foreign {v : Workspace} (tree : FileTree) : tree.WellFormed → Later w v →
    Later w { v with tree }

/-- **At any later time only the tree is another one**, and it is well formed. -/
theorem Later.rewritten (h : w.Later w') (hwf : w.tree.WellFormed) : w.Rewritten w' := by
  induction h with
  | refl => exact .refl hwf
  | read path _ ih => exact ih
  | active _ ih => exact ih
  | replace path content _ ih =>
    obtain ⟨tree, htree, rfl⟩ := ih
    have hwrite := rewritten_writeText (w := { w with tree }) htree path content
    obtain ⟨tree', htree', hwritten⟩ := hwrite
    refine ⟨tree', htree', ?_⟩
    rw [surface, replaceFile_snd, hwritten]
  | batch edits _ ih =>
    obtain ⟨tree, htree, rfl⟩ := ih
    have hwrite := rewritten_writeBatch (w := { w with tree }) htree edits
    obtain ⟨tree', htree', hwritten⟩ := hwrite
    refine ⟨tree', htree', ?_⟩
    rw [surface, hwritten]
  | refused path e hrefused _ ih => rwa [focusing_eq_error hrefused]
  | foreign tree htree _ ih =>
    obtain ⟨tree', -, rfl⟩ := ih
    exact ⟨tree, htree, rfl⟩

/-! ## Reading the focused file again -/

/-- What focusing a file promises. -/
structure FocusedAsPromised (w : Workspace) (path : String) : Prop where
  /-- A path that is refused leaves the focus as it is. -/
  refused : ∀ e, (w.focusing path).1 = .error e → (w.focusing path).2.focus = w.focus
  /-- The path that is remembered leads to the same file. -/
  same : ∀ r, (w.focusing path).1 = .ok r → w.SameFile r path
  /-- As long as a text stands where the file was found, the focused file is that one. -/
  reread : ∀ r p s w', (w.focusing path).1 = .ok r → w.tree.realPath (w.route path) = .ok p →
    (w.focusing path).2.Later w' → w'.tree.node? p = some (.file (.text s)) →
      w'.readFocused = .ok (some ⟨r, s⟩)

theorem place_of_isFile (hwf : w.tree.WellFormed) (hroot : Spellable w.root)
    (hpath : w.tree.realPath (w.route path) = .ok p) (hfile : w.tree.isFile p = true) :
    Spellable p ∧ (∀ name ∈ p, IsName name) ∧ Fits p ∧
      ∃ content, w.tree.node? p = some (.file content) := by
  obtain ⟨content, hwalk⟩ := hwf.walk_of_isFile hpath hfile
  have hwalks := walk_iff.mp hwalk
  refine ⟨hwalks.spellable nofun (spellable_ofText hroot), hwalks.isName_of_mem nofun, ?_,
    content, hwf.walk_stands rfl hwalk⟩
  rw [isFile] at hfile
  split at hfile
  next q content hlocate => exact fits_of_locate hlocate
  next => exact absurd hfile Bool.false_ne_true

/-- **A file that was focused is read again** by its relative path, unless that is blank. -/
theorem readFocused_eq_ok (hwf : w.tree.WellFormed) (hfocus : w.focus = some r)
    (hblank : isBlankText r = false) (hroute : w.route r = p) (hholds : w.holds p = true)
    (hnames : ∀ name ∈ p, IsName name) (hfits : Fits p)
    (hnode : w.tree.node? p = some (.file (.text s))) :
    w.readFocused = .ok (some ⟨r, s⟩) := by
  have hwalk := hwf.walk_file_self (k := linkLimit) hnode hnames
  have hread : w.readFile r = .ok s := by
    refine readFile_iff.mpr ⟨hblank, p, ?_, hholds, ?_⟩
    · rw [hroute]
      exact realPath_iff.mpr ⟨hfits.no_nul, .inr ⟨_, hwalk⟩⟩
    · exact readText_iff.mpr ⟨p, by rw [locate_of_fits hfits, hwalk]⟩
  rw [readFocused, hfocus]
  simp only [hread]

theorem readFocused_of_blank (hfocus : w.focus = some r) (hblank : isBlankText r = true) :
    w.readFocused = .error (.rejected r "path must not be empty") := by
  rw [readFocused, hfocus]
  simp only [readFile, readText, resolveExisting, hblank, if_true, bind, Except.bind]
  rfl

/-- **Focusing keeps its promise** exactly for files that have a name in the workspace. The promise
holds at every later time, whatever is written meanwhile through the workspace or by others. -/
theorem focusedAsPromised_iff (hwf : w.tree.WellFormed) (hroot : Spellable w.root) :
    w.FocusedAsPromised path ↔ ∀ r p, (w.focusing path).1 = .ok r →
      w.tree.realPath (w.route path) = .ok p → ¬w.Nameless p := by
  constructor
  · intro hpromised r p hok hpath hnameless
    obtain ⟨q, hq, hholds, hfile, rfl, hfocusing⟩ := focusing_eq_ok hok
    obtain rfl := Except.ok.inj (hpath.symm.trans hq)
    obtain ⟨-, -, -, content, hnode⟩ := place_of_isFile hwf hroot hpath hfile
    have hstands : w.tree.Stands (.file p content false) := hnode
    have hgrown : w.tree.Grown (w.tree.set p (.file (.text ""))) :=
      (Grown.refl hwf).set_place hstands rfl
    -- Others may make the file a text, if it is none.
    have hlater : (w.focusing path).2.Later
        { (w.focusing path).2 with tree := w.tree.set p (.file (.text "")) } :=
      .foreign _ hgrown.wellFormed .refl
    have hne : p ≠ [] := by
      rintro rfl
      exact absurd hnode nofun
    have hread := hpromised.reread _ p "" _ hok hpath hlater (by rw [node?_set hne, if_pos rfl])
    rw [readFocused_of_blank (r := w.relative p) (by rw [hfocusing])
      ((isBlankText_relative_iff hholds).mpr hnameless)] at hread
    exact absurd hread nofun
  · intro hnamed
    refine ⟨fun e herror ↦ by rw [focusing_eq_error herror], fun r hok ↦ ?_,
      fun r p s w' hok hpath hlater hnode ↦ ?_⟩
    · obtain ⟨p, hpath, hholds, hfile, rfl, -⟩ := focusing_eq_ok hok
      obtain ⟨hspellable, hnames, hfits, content, hnode⟩ := place_of_isFile hwf hroot hpath hfile
      have hne : p ≠ w.root := fun hp ↦ hnamed _ p hok hpath (.inl hp)
      rw [SameFile, hpath, route_relative hholds hne hspellable hnames]
      exact realPath_iff.mpr ⟨hfits.no_nul, .inr ⟨content, hwf.walk_file_self hnode hnames⟩⟩
    · obtain ⟨q, hq, hholds, hfile, rfl, hfocusing⟩ := focusing_eq_ok hok
      obtain rfl := Except.ok.inj (hpath.symm.trans hq)
      obtain ⟨hspellable, hnames, hfits, -⟩ := place_of_isFile hwf hroot hpath hfile
      have hnot : ¬w.Nameless p := hnamed _ p hok hpath
      have hne : p ≠ w.root := fun hp ↦ hnot (.inl hp)
      have hblank : isBlankText (w.relative p) = false :=
        Bool.eq_false_iff.mpr fun hblank ↦ hnot ((isBlankText_relative_iff hholds).mp hblank)
      rw [hfocusing] at hlater
      obtain ⟨tree, htree, rfl⟩ := hlater.rewritten hwf
      exact readFocused_eq_ok htree rfl hblank (route_relative hholds hne hspellable hnames) hholds
        hnames hfits hnode

/-- A file is focused along a link, then another target is put in place of the link's, another file
cannot be focused, and the file is written. -/
theorem focusedAsPromised_along_link :
    let tree : FileTree := ⟨[(["ws"], .directory), (["ws", "d"], .directory),
      (["ws", "d", "a b"], .file (.text "x\n")), (["ws", "l"], .link "./d//a b")]⟩
    let w : Workspace := { tree, root := ["ws"] }
    let v : Workspace := { (w.focusing "l").2 with tree := tree.set ["ws", "l"] (.link "d") }
    let w' := (surface.replace "d/a b" "y\n" (v.focusing "l").2).2
    w.tree.WellFormed ∧ Spellable w.root ∧ w.FocusedAsPromised "l" ∧
      (w.focusing "l").1 = .ok "d/a b" ∧ (v.focusing "l").1 = .error (.notAFile "l") ∧
      w'.readFocused = .ok (some ⟨"d/a b", "y\n"⟩) := by
  intro tree w v w'
  have hwf : w.tree.WellFormed := by decide +kernel
  have hmade : ofPath tree [] "/ws" = .ok w := rfl
  have hroot : Spellable w.root := spellable_root (by decide) hmade
  have hpath : w.tree.realPath (w.route "l") = .ok ["ws", "d", "a b"] := by decide +kernel
  have hok : (w.focusing "l").1 = .ok "d/a b" := by decide +kernel
  have hrefused : (v.focusing "l").1 = .error (.notAFile "l") := by decide +kernel
  have hnode : w'.tree.node? ["ws", "d", "a b"] = some (.file (.text "y\n")) := by decide +kernel
  have hlater : (w.focusing "l").2.Later w' :=
    .replace _ _ (.refused "l" _ hrefused (.foreign _ (by decide +kernel) .refl))
  have hpromised : w.FocusedAsPromised "l" := by
    refine (focusedAsPromised_iff hwf hroot).mpr fun r p _ hp ↦ ?_
    obtain rfl := Except.ok.inj (hpath.symm.trans hp)
    rintro (hsame | ⟨name, hname, -⟩)
    · exact absurd hsame (by decide)
    · exact absurd (congrArg List.length hname) (by simp [w])
  exact ⟨hwf, hroot, hpromised, hok, hrefused, hpromised.reread _ _ _ w' hok hpath hlater hnode⟩

/-- **The promise is broken** by a file in the root whose name is a blank: it is focused, and cannot
be read right after that. -/
theorem not_focusedAsPromised_blank_name :
    let w : Workspace := {
      tree := ⟨[(["ws"], .directory), (["ws", " "], .file (.text "x"))]⟩
      root := ["ws"] }
    ¬w.FocusedAsPromised "./ " := by
  intro w hpromised
  have hread := hpromised.reread " " ["ws", " "] "x" (w.focusing "./ ").2 (by decide +kernel)
    (by decide +kernel) .refl (by decide +kernel)
  rw [readFocused_of_blank (r := " ") (by decide +kernel) (by decide)] at hread
  exact absurd hread nofun

end Workspace

end Redline
