import Mathlib.Data.List.Forall2
import Redline.Reply.Classify

/-!
# The grammar of replies

What a reply of each type looks like is said here by rules, apart from the functions that read one.
The rules say nothing about the order in which fields are looked at, since that decides only which
fault of a malformed reply is reported.

How a file of a change is written is a parameter of the rules. The documented form is an object with
the fields `filePath` and `newContent`. The reader takes the list of the two texts as well, so it
accepts exactly the rules with both forms, and keeps to the documented ones except for replies with
a file written as a list.
-/

namespace Redline

open Redline.Json

theorem bind_eq_ok {ε α β : Type} {x : Except ε α} {f : α → Except ε β} {b : β} :
    (x >>= f) = .ok b ↔ ∃ a, x = .ok a ∧ f a = .ok b := by
  cases x with
  | error e => exact ⟨nofun, fun ⟨_, h, _⟩ ↦ nomatch h⟩
  | ok a => exact ⟨fun h ↦ ⟨a, rfl, h⟩, fun ⟨_, ha, h⟩ ↦ Except.ok.inj ha ▸ h⟩

namespace Reply

/-! ## The rules -/

/-- The forms in which a file of a change can be written. -/
abbrev FileForm := Json → ProposedFile → Prop

/-- A file as an object with two texts, whatever other fields it has. -/
inductive AsObject : FileForm
  | intro {value : Json} {path content : String} :
    value.field? "filePath" = some (.string path) →
    value.field? "newContent" = some (.string content) → AsObject value ⟨path, content⟩

/-- A file as the list of two texts. -/
inductive AsList : FileForm
  | intro (path content : String) : AsList (.array [.string path, .string content]) ⟨path, content⟩

def AsEither : FileForm := fun value file ↦ AsObject value file ∨ AsList value file

/-- The files of a change are at least one, and their paths are distinct and not blank. -/
structure ValidChanges (changes : List ProposedFile) : Prop where
  nonempty : changes ≠ []
  not_blank : ∀ file ∈ changes, Text.isBlankText file.path = false
  nodup : (changes.map ProposedFile.path).Nodup

/-- The reply that a value with the given fields denotes, its files written in the given form. -/
inductive Denotes (form : FileForm) (value : Json) : Reply → Prop
  | explanation {text : String} :
    value.field? "type" = some (.string "explanation") →
    value.field? "content" = some (.string text) →
    Denotes form value (.explanation text)
  | replaceFile {content : String} :
    value.field? "type" = some (.string "replace_file") →
    value.field? "content" = some (.string content) →
    Denotes form value (.replaceFile content)
  | explanationWithChanges {explanation code : String} :
    value.field? "type" = some (.string "explanation_with_changes") →
    value.field? "explanation" = some (.string explanation) →
    value.field? "code" = some (.string code) →
    Denotes form value (.explanationWithChanges explanation code)
  | multiFileChange {explanation : String} {items : List Json} {changes : List ProposedFile} :
    value.field? "type" = some (.string "multi_file_change") →
    value.field? "explanation" = some (.string explanation) →
    value.field? "changes" = some (.array items) →
    List.Forall₂ form items changes → ValidChanges changes →
    Denotes form value (.multiFileChange explanation changes)
  | backendError {message : String} :
    value.field? "type" = some (.string "error") →
    value.field? "message" = some (.string message) →
    Denotes form value (.backendError message)

/-! ## Fields -/

section

variable {value : Json} {fields : List (String × Json)} {name : String}

theorem textOf_eq_ok {s : String} : textOf value = .ok s ↔ value = .string s := by
  cases value <;> simp [textOf]

variable {α : Type} {read : Json → Except Mismatch α}

theorem required_eq_ok {x? : Option α} {x : α} : required name x? = .ok x ↔ x? = some x := by
  cases x? <;> simp [required]

theorem given?_eq_ok_some {x : α} : given? read name fields = .ok (some x) ↔
    ∃ value, lookup? name fields = some value ∧ read value = .ok x := by
  rw [given?]
  cases lookup? name fields with
  | none => simp
  | some value => cases hread : read value <;> simp [hread]

theorem given?_textOf_eq_ok_some {s : String} : given? textOf name fields = .ok (some s) ↔
    lookup? name fields = some (.string s) := by
  rw [given?_eq_ok_some]
  constructor
  · rintro ⟨value, hlookup, hread⟩
    rw [hlookup, textOf_eq_ok.mp hread]
  · exact fun h ↦ ⟨_, h, rfl⟩

theorem textField_eq_ok {s : String} : textField name fields = .ok s ↔
    lookup? name fields = some (.string s) := by
  rw [textField, bind_eq_ok]
  constructor
  · rintro ⟨x?, hgiven, hrequired⟩
    obtain rfl := required_eq_ok.mp hrequired
    exact given?_textOf_eq_ok_some.mp hgiven
  · exact fun h ↦ ⟨_, given?_textOf_eq_ok_some.mpr h, rfl⟩

theorem textField_bind_eq_ok {β : Type} {make : String → β} {x : β} :
    (do Except.ok (make (← textField name fields))) = .ok x ↔
      ∃ s, lookup? name fields = some (.string s) ∧ x = make s := by
  simp only [bind_eq_ok, textField_eq_ok, Except.ok.injEq]
  constructor
  · rintro ⟨s, hs, rfl⟩
    exact ⟨s, hs, rfl⟩
  · rintro ⟨s, hs, rfl⟩
    exact ⟨s, hs, rfl⟩

theorem exists_object_of_field? {found : Json} (h : value.field? name = some found) :
    ∃ fields, value = .object fields ∧ lookup? name fields = some found := by
  cases value with
  | object fields => exact ⟨fields, rfl, h⟩
  | _ => exact absurd h nofun

end

/-! ## Files of a change -/

section

variable {value : Json} {file : ProposedFile}

theorem asObject_object {fields : List (String × Json)} : AsObject (.object fields) file ↔
    lookup? "filePath" fields = some (.string file.path) ∧
      lookup? "newContent" fields = some (.string file.content) := by
  constructor
  · rintro ⟨hpath, hcontent⟩
    exact ⟨hpath, hcontent⟩
  · exact fun ⟨hpath, hcontent⟩ ↦ ⟨hpath, hcontent⟩

theorem pairOf_eq_ok {items : List Json} :
    pairOf items = .ok file ↔ items = [.string file.path, .string file.content] := by
  match items with
  | [] => simp [pairOf]
  | [path] => simp [pairOf, bind_eq_ok]
  | path :: content :: more =>
    simp only [pairOf, bind_eq_ok, textOf_eq_ok]
    cases more with
    | nil =>
      constructor
      · rintro ⟨p, rfl, c, rfl, h⟩
        obtain rfl := Except.ok.inj h
        rfl
      · intro h
        obtain ⟨rfl, rfl⟩ : path = .string file.path ∧ content = .string file.content := by
          simpa using h
        exact ⟨_, rfl, _, rfl, rfl⟩
    | cons => simp

/-- **A file is read in either form**, and in no other. -/
theorem proposedFileOf_eq_ok : proposedFileOf value = .ok file ↔ AsEither value file := by
  cases value with
  | object fields =>
    have hlist : ¬AsList (.object fields) file := nofun
    rw [AsEither, or_iff_left hlist, asObject_object]
    simp only [proposedFileOf, bind_eq_ok, required_eq_ok]
    constructor
    · rintro ⟨_, hpath, _, hcontent, path, rfl, content, rfl, hfile⟩
      obtain rfl := Except.ok.inj hfile
      exact ⟨given?_textOf_eq_ok_some.mp hpath, given?_textOf_eq_ok_some.mp hcontent⟩
    · rintro ⟨hpath, hcontent⟩
      exact ⟨_, given?_textOf_eq_ok_some.mpr hpath, _, given?_textOf_eq_ok_some.mpr hcontent,
        _, rfl, _, rfl, rfl⟩
  | array items =>
    have hobject : ¬AsObject (.array items) file := by
      rintro ⟨hpath, -⟩
      exact absurd hpath nofun
    rw [proposedFileOf, pairOf_eq_ok, AsEither, or_iff_right hobject]
    constructor
    · rintro rfl
      exact .intro _ _
    · rintro ⟨⟩
      rfl
  | _ =>
    refine ⟨nofun, ?_⟩
    rintro (⟨hpath, -⟩ | h)
    · exact absurd hpath nofun
    · exact absurd h nofun

theorem proposedFilesOf_eq_ok {items : List Json} {files : List ProposedFile} :
    proposedFilesOf items = .ok files ↔ List.Forall₂ AsEither items files := by
  induction items generalizing files with
  | nil =>
    rw [List.forall₂_nil_left_iff, proposedFilesOf, Except.ok.injEq, eq_comm]
  | cons item items ih =>
    simp only [proposedFilesOf, bind_eq_ok, proposedFileOf_eq_ok, ih,
      List.forall₂_cons_left_iff, Except.ok.injEq]
    constructor
    · rintro ⟨file, hfile, files, hfiles, rfl⟩
      exact ⟨file, files, hfile, hfiles, rfl⟩
    · rintro ⟨file, files, hfile, hfiles, rfl⟩
      exact ⟨file, hfile, files, hfiles, rfl⟩

theorem changesOf_eq_ok {files : List ProposedFile} : changesOf value = .ok files ↔
    ∃ items, value = .array items ∧ List.Forall₂ AsEither items files := by
  cases value with
  | array items => simp [changesOf, proposedFilesOf_eq_ok]
  | _ => simp [changesOf]

theorem given?_changesOf_eq_ok_some {fields : List (String × Json)} {files : List ProposedFile} :
    given? changesOf "changes" fields = .ok (some files) ↔
      ∃ items, lookup? "changes" fields = some (.array items) ∧
        List.Forall₂ AsEither items files := by
  rw [given?_eq_ok_some]
  constructor
  · rintro ⟨value, hlookup, hread⟩
    obtain ⟨items, rfl, hitems⟩ := changesOf_eq_ok.mp hread
    exact ⟨items, hlookup, hitems⟩
  · rintro ⟨items, hlookup, hitems⟩
    exact ⟨_, hlookup, changesOf_eq_ok.mpr ⟨items, rfl, hitems⟩⟩

end

/-! ## Paths of a change -/

/-- Files pass the check from an index on if their paths are not blank and stand neither twice nor
among those seen before. -/
theorem checkPaths_eq_ok {index : Nat} {seen : List String} {files : List ProposedFile} :
    checkPaths index seen files = .ok () ↔
      (∀ file ∈ files, Text.isBlankText file.path = false ∧ file.path ∉ seen) ∧
        (files.map ProposedFile.path).Nodup := by
  induction files generalizing index seen with
  | nil => simp [checkPaths]
  | cons file files ih =>
    rw [checkPaths, List.forall_mem_cons, List.map_cons, List.nodup_cons]
    by_cases hblank : Text.isBlankText file.path
    · simp [hblank]
    · by_cases hseen : file.path ∈ seen
      · simp [hblank, hseen]
      · rw [if_neg hblank, if_neg (by simpa using hseen), ih]
        -- The path joins those seen, which keeps it from the rest.
        have hmem : (∀ x ∈ files, Text.isBlankText x.path = false ∧ x.path ∉ file.path :: seen) ↔
            (∀ x ∈ files, Text.isBlankText x.path = false ∧ x.path ∉ seen) ∧
              file.path ∉ files.map ProposedFile.path := by
          simp only [List.mem_cons, not_or, List.mem_map, not_exists, not_and]
          grind
        rw [hmem]
        simp only [Bool.eq_false_iff.mpr hblank, hseen]
        tauto

theorem checkChanges_eq_ok {changes : List ProposedFile} :
    checkChanges changes = .ok () ↔ ValidChanges changes := by
  rw [checkChanges]
  cases changes with
  | nil => exact ⟨nofun, fun h ↦ absurd rfl h.nonempty⟩
  | cons file files =>
    rw [List.isEmpty_cons, if_neg Bool.false_ne_true, checkPaths_eq_ok]
    constructor
    · rintro ⟨hpaths, hnodup⟩
      exact ⟨List.cons_ne_nil _ _, fun x hx ↦ (hpaths x hx).1, hnodup⟩
    · rintro ⟨-, hblank, hnodup⟩
      exact ⟨fun x hx ↦ ⟨hblank x hx, List.not_mem_nil⟩, hnodup⟩

/-! ## Kinds -/

section

variable {fields : List (String × Json)} {reply : Reply}

theorem ofFields_explanation : ofFields "explanation" fields = .ok reply ↔
    ∃ text, lookup? "content" fields = some (.string text) ∧ reply = .explanation text := by
  rw [ofFields, if_pos rfl, textField_bind_eq_ok]

theorem ofFields_replaceFile : ofFields "replace_file" fields = .ok reply ↔
    ∃ content, lookup? "content" fields = some (.string content) ∧
      reply = .replaceFile content := by
  rw [ofFields, if_neg (by decide), if_pos rfl, textField_bind_eq_ok]

theorem ofFields_explanationWithChanges :
    ofFields "explanation_with_changes" fields = .ok reply ↔
      ∃ explanation code, lookup? "explanation" fields = some (.string explanation) ∧
        lookup? "code" fields = some (.string code) ∧
          reply = .explanationWithChanges explanation code := by
  simp only [ofFields, String.reduceEq, if_false, if_true, bind_eq_ok, required_eq_ok]
  constructor
  · rintro ⟨_, hcode, _, hexplanation, explanation, rfl, code, rfl, hreply⟩
    exact ⟨explanation, code, given?_textOf_eq_ok_some.mp hexplanation,
      given?_textOf_eq_ok_some.mp hcode, (Except.ok.inj hreply).symm⟩
  · rintro ⟨explanation, code, hexplanation, hcode, rfl⟩
    exact ⟨_, given?_textOf_eq_ok_some.mpr hcode, _, given?_textOf_eq_ok_some.mpr hexplanation,
      _, rfl, _, rfl, rfl⟩

theorem ofFields_multiFileChange : ofFields "multi_file_change" fields = .ok reply ↔
    ∃ explanation items changes, lookup? "explanation" fields = some (.string explanation) ∧
      lookup? "changes" fields = some (.array items) ∧ List.Forall₂ AsEither items changes ∧
        reply = .multiFileChange explanation changes := by
  simp only [ofFields, String.reduceEq, if_false, if_true, bind_eq_ok, required_eq_ok]
  constructor
  · rintro ⟨_, hchanges, _, hexplanation, explanation, rfl, changes, rfl, hreply⟩
    obtain ⟨items, hitems, hfiles⟩ := given?_changesOf_eq_ok_some.mp hchanges
    exact ⟨explanation, items, changes, given?_textOf_eq_ok_some.mp hexplanation, hitems, hfiles,
      (Except.ok.inj hreply).symm⟩
  · rintro ⟨explanation, items, changes, hexplanation, hitems, hfiles, rfl⟩
    exact ⟨_, given?_changesOf_eq_ok_some.mpr ⟨items, hitems, hfiles⟩, _,
      given?_textOf_eq_ok_some.mpr hexplanation, _, rfl, _, rfl, rfl⟩

theorem ofFields_error : ofFields "error" fields = .ok reply ↔
    ∃ message, lookup? "message" fields = some (.string message) ∧
      reply = .backendError message := by
  rw [ofFields, if_neg (by decide), if_neg (by decide), if_neg (by decide), if_neg (by decide),
    textField_bind_eq_ok]

end

/-! ## The reader keeps to the rules -/

section

variable {value : Json} {reply : Reply} {fields : List (String × Json)} {type : String}

theorem ofJson_object (htype : lookup? "type" fields = some (.string type)) :
    ofJson (.object fields) = .ok reply ↔ type ∈ knownTypes ∧ ofFields type fields = .ok reply ∧
      ∀ explanation changes, reply = .multiFileChange explanation changes →
        ValidChanges changes := by
  simp only [ofJson, htype]
  by_cases hknown : type ∈ knownTypes
  · rw [if_pos (List.contains_iff_mem.mpr hknown)]
    cases hfields : ofFields type fields with
    | error m => simp
    | ok read =>
      cases read with
      | multiFileChange explanation changes =>
        simp only [bind_eq_ok, Except.ok.injEq]
        constructor
        · rintro ⟨_, hcheck, rfl⟩
          refine ⟨hknown, rfl, fun _ _ hreply ↦ ?_⟩
          obtain ⟨-, rfl⟩ := Reply.multiFileChange.inj hreply
          exact checkChanges_eq_ok.mp hcheck
        · rintro ⟨-, rfl, hvalid⟩
          exact ⟨(), checkChanges_eq_ok.mpr (hvalid _ _ rfl), rfl⟩
      | _ =>
        simp only [Except.ok.injEq]
        constructor
        · rintro rfl
          exact ⟨hknown, rfl, nofun⟩
        · exact fun h ↦ h.2.1
  · rw [if_neg (mt List.contains_iff_mem.mp hknown)]
    exact ⟨nofun, fun h ↦ absurd h.1 hknown⟩

theorem Denotes.exists_type {form : FileForm} (h : Denotes form value reply) :
    ∃ type, value.field? "type" = some (.string type) := by
  cases h with
  | explanation htype _ => exact ⟨_, htype⟩
  | replaceFile htype _ => exact ⟨_, htype⟩
  | explanationWithChanges htype _ _ => exact ⟨_, htype⟩
  | multiFileChange htype _ _ _ _ => exact ⟨_, htype⟩
  | backendError htype _ => exact ⟨_, htype⟩

/-- **The reader accepts exactly the rules with files in either form**, and what it returns is what
they say. -/
theorem ofJson_eq_ok : ofJson value = .ok reply ↔ Denotes AsEither value reply := by
  constructor
  · intro h
    cases value with
    | object fields =>
      cases htype : lookup? "type" fields with
      | none => simp [ofJson, htype] at h
      | some found =>
        cases found with
        | string type =>
          obtain ⟨hknown, hfields, hvalid⟩ := (ofJson_object htype).mp h
          simp only [knownTypes, List.mem_cons, List.not_mem_nil, or_false] at hknown
          rcases hknown with rfl | rfl | rfl | rfl | rfl
          · obtain ⟨text, htext, rfl⟩ := ofFields_explanation.mp hfields
            exact .explanation htype htext
          · obtain ⟨content, hcontent, rfl⟩ := ofFields_replaceFile.mp hfields
            exact .replaceFile htype hcontent
          · obtain ⟨explanation, code, hexplanation, hcode, rfl⟩ :=
              ofFields_explanationWithChanges.mp hfields
            exact .explanationWithChanges htype hexplanation hcode
          · obtain ⟨explanation, items, changes, hexplanation, hitems, hfiles, rfl⟩ :=
              ofFields_multiFileChange.mp hfields
            exact .multiFileChange htype hexplanation hitems hfiles (hvalid _ _ rfl)
          · obtain ⟨message, hmessage, rfl⟩ := ofFields_error.mp hfields
            exact .backendError htype hmessage
        | _ => simp [ofJson, htype] at h
    | _ => simp [ofJson] at h
  · intro h
    obtain ⟨type, htype⟩ := h.exists_type
    obtain ⟨fields, rfl, -⟩ := exists_object_of_field? htype
    cases h with
    | explanation htype htext =>
      exact (ofJson_object htype).mpr
        ⟨by decide, ofFields_explanation.mpr ⟨_, htext, rfl⟩, nofun⟩
    | replaceFile htype hcontent =>
      exact (ofJson_object htype).mpr
        ⟨by decide, ofFields_replaceFile.mpr ⟨_, hcontent, rfl⟩, nofun⟩
    | explanationWithChanges htype hexplanation hcode =>
      exact (ofJson_object htype).mpr ⟨by decide,
        ofFields_explanationWithChanges.mpr ⟨_, _, hexplanation, hcode, rfl⟩, nofun⟩
    | multiFileChange htype hexplanation hitems hfiles hvalid =>
      refine (ofJson_object htype).mpr ⟨by decide,
        ofFields_multiFileChange.mpr ⟨_, _, _, hexplanation, hitems, hfiles, rfl⟩, ?_⟩
      intro _ _ hreply
      obtain ⟨-, rfl⟩ := Reply.multiFileChange.inj hreply
      exact hvalid
    | backendError htype hmessage =>
      exact (ofJson_object htype).mpr ⟨by decide, ofFields_error.mpr ⟨_, hmessage, rfl⟩, nofun⟩

theorem Denotes.isMalformed_eq_false {form : FileForm} (h : Denotes form value reply) :
    reply.isMalformed = false := by
  cases h <;> rfl

theorem classify_eq_and_not_malformed :
    (classify value = reply ∧ reply.isMalformed = false) ↔ Denotes AsEither value reply := by
  rw [← ofJson_eq_ok]
  constructor
  · rintro ⟨rfl, hmalformed⟩
    cases hread : ofJson value with
    | ok reply => rw [classify, hread]
    | error m => simp [classify, hread, isMalformed] at hmalformed
  · intro h
    exact ⟨by rw [classify, h], (ofJson_eq_ok.mp h).isMalformed_eq_false⟩

end

/-! ## The documented form -/

variable {value : Json}

/-- A value is understood if and only if it follows the documented rules, and as what they say. -/
def Documented (value : Json) : Prop :=
  ∀ reply, (classify value = reply ∧ reply.isMalformed = false) ↔ Denotes AsObject value reply

/-- A value is understood as a change of several files, and one of them is written as a list. -/
def HasListedFile (value : Json) : Prop :=
  (∃ explanation changes, classify value = .multiFileChange explanation changes) ∧
    ∃ items, value.field? "changes" = some (.array items) ∧ ∃ files, .array files ∈ items

/-- The form in which files are written matters only for a change of several files. -/
theorem Denotes.imp {form form' : FileForm} {reply : Reply} (hdenotes : Denotes form value reply)
    (h : ∀ explanation changes items, reply = .multiFileChange explanation changes →
      value.field? "changes" = some (.array items) →
        ∀ item ∈ items, ∀ file, form item file → form' item file) :
    Denotes form' value reply := by
  cases hdenotes with
  | explanation htype htext => exact .explanation htype htext
  | replaceFile htype hcontent => exact .replaceFile htype hcontent
  | explanationWithChanges htype hexplanation hcode =>
    exact .explanationWithChanges htype hexplanation hcode
  | multiFileChange htype hexplanation hitems hfiles hvalid =>
    have hboth := (List.forall₂_and_left _ _).mpr ⟨h _ _ _ rfl hitems, hfiles⟩
    exact .multiFileChange htype hexplanation hitems
      (hboth.imp fun _ _ ⟨himp, hform⟩ ↦ himp _ hform) hvalid
  | backendError htype hmessage => exact .backendError htype hmessage

theorem not_asObject_array {files : List Json} {file : ProposedFile} :
    ¬AsObject (.array files) file := by
  rintro ⟨hpath, -⟩
  exact absurd hpath nofun

theorem asObject_of_asEither {item : Json} {file : ProposedFile} (h : AsEither item file)
    (hlist : ∀ files, item ≠ .array files) : AsObject item file := by
  rcases h with h | ⟨path, content⟩
  · exact h
  · exact absurd rfl (hlist _)

/-- **Values are understood by the rules of replies.** What is understood is exactly what the rules
say when a file may be written in either form. They are the documented rules for every value but a
change of several files in which one is written as a list, and for such a value they never are. -/
theorem classify_grammar (value : Json) :
    (∀ reply, (classify value = reply ∧ reply.isMalformed = false) ↔
      Denotes AsEither value reply) ∧
    (Documented value ↔ ¬HasListedFile value) := by
  refine ⟨fun _ ↦ classify_eq_and_not_malformed, ?_, ?_⟩
  · rintro hdocumented ⟨⟨explanation, changes, hclassify⟩, items, hitems, files, hmem⟩
    -- The documented rules would read the list as an object.
    have hdenotes := (hdocumented _).mp ⟨hclassify, rfl⟩
    cases hdenotes with
    | multiFileChange htype hexplanation hitems' hfiles hvalid =>
      obtain rfl := Json.array.inj (Option.some.inj (hitems.symm.trans hitems'))
      have hobjects := (List.forall₂_and_left _ _).mp
        (hfiles.imp fun item file hobject ↦ And.intro (Exists.intro file hobject) hobject)
      obtain ⟨file, hobject⟩ := hobjects.1 _ hmem
      exact not_asObject_array hobject
  · intro hlisted reply
    rw [classify_eq_and_not_malformed]
    constructor
    · intro hdenotes
      obtain ⟨hclassify, -⟩ := classify_eq_and_not_malformed.mpr hdenotes
      refine hdenotes.imp fun explanation changes items hreply hitems item hitem file hfile ↦ ?_
      refine asObject_of_asEither hfile fun files hlist ↦ hlisted ?_
      exact ⟨⟨explanation, changes, hclassify.trans hreply⟩, items, hitems, files, hlist ▸ hitem⟩
    · exact fun hdenotes ↦ hdenotes.imp fun _ _ _ _ _ _ _ _ hobject ↦ Or.inl hobject

/-- A change whose file is the list of its two texts is understood, though the documented rules do
not provide for it. -/
theorem not_documented_listed_file :
    ¬Documented (.object [("changes", .array [.array [.string "a", .string "b"]]),
      ("explanation", .string "e"), ("type", .string "multi_file_change")]) := by
  intro hdocumented
  have hdenotes := (hdocumented (.multiFileChange "e" [⟨"a", "b"⟩])).mp ⟨by decide, rfl⟩
  cases hdenotes with
  | multiFileChange htype hexplanation hitems hfiles hvalid =>
    obtain rfl := Json.array.inj (Option.some.inj hitems)
    cases hfiles with
    | cons hfile hrest => exact not_asObject_array hfile

end Reply

end Redline
