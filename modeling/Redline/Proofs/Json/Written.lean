import Mathlib.Data.List.Forall2
import Redline.Json.Printer
import Redline.Json.Record

/-!
# Written text is read back

A reader *takes* a text for a value if it reads the text to its end and answers with the value,
whatever follows the text and wherever the text begins. What the printer writes of strings, arrays
and objects is taken by the readers of these, for untyped values as for records, given the same of
the values inside.

Objects are written in the order of their fields. An untyped reader lists the fields by their names,
a reader of a record puts each where it belongs, so neither depends on the order.
-/

namespace Redline.Json

open Redline.Text

variable {α σ : Type} {c : Char} {rest : List Char} {p : Place}

/-! ## Texts that are taken -/

/-- A reader reads a text to its end and answers with a value, whatever follows. -/
def Takes (reader : Reader α) (text : List Char) (x : α) : Prop :=
  ∀ rest p, reader ⟨text ++ rest, p⟩ = .ok (x, ⟨rest, placeAtEnd text p⟩)

theorem placeAtEnd_append (front back : List Char) (p : Place) :
    placeAtEnd (front ++ back) p = placeAtEnd back (placeAtEnd front p) := by
  induction front generalizing p with
  | nil => rfl
  | cons c front ih => exact ih (p.after c)

def IsSpace (c : Char) : Prop := c = ' ' ∨ c = '\n' ∨ c = '\t' ∨ c = '\r'

instance : Decidable (IsSpace c) := inferInstanceAs (Decidable (_ ∨ _ ∨ _ ∨ _))

theorem space_cons (h : ¬IsSpace c) : Cursor.space ⟨c :: rest, p⟩ = ⟨c :: rest, p⟩ :=
  if_neg h

theorem next_cons : Cursor.next ⟨c :: rest, p⟩ = ⟨rest, p.after c⟩ := rfl

/-! ## Characters -/

/-- The number that four hexadecimal digits denote. -/
def hexNumber? : List Char → Option Nat
  | [w, x, y, z] => do
    some ((((← hexValue? w) * 16 + (← hexValue? x)) * 16 + (← hexValue? y)) * 16 + (← hexValue? z))
  | _ => none

theorem takes_readHex {digits : List Char} {n : Nat} (h : hexNumber? digits = some n) :
    Takes readHex digits n := by
  intro rest p
  match digits with
  | [w, x, y, z] =>
    simp only [hexNumber?, Option.bind_eq_bind, Option.bind_eq_some_iff, Option.some.injEq] at h
    obtain ⟨a, ha, b, hb, d, hd, e, he, rfl⟩ := h
    simp only [readHex, List.cons_append, List.nil_append, ha, hb, hd, he]
    rfl

def controlDigits (n : Nat) : List Char :=
  if n < 0x10 then ['0', '0', '0'] ++ hexDigits n else ['0', '0'] ++ hexDigits n

theorem hexNumber?_controlDigits : ∀ n < 0x20, hexNumber? (controlDigits n) = some n := by
  decide

theorem takes_readEscape_of_control (h : c.toNat < 0x20) :
    Takes readEscape ('u' :: controlDigits c.toNat) c := by
  intro rest p
  have hhex := takes_readHex (hexNumber?_controlDigits c.toNat h) rest (p.after 'u')
  have hsimple : simpleEscape? 'u' = none := by decide
  have hlow : ¬(0xDC00 ≤ c.toNat ∧ c.toNat ≤ 0xDFFF) := by omega
  have hhigh : ¬(0xD800 ≤ c.toNat ∧ c.toNat ≤ 0xDBFF) := by omega
  simp only [readEscape, List.cons_append, hsimple, next_cons, hhex, bind, Except.bind, if_true,
    if_neg hlow, if_neg hhigh, Char.ofNat_toNat]
  rfl

theorem takes_readEscape_of_simple {letter : Char} (h : simpleEscape? letter = some c) :
    Takes readEscape [letter] c := by
  intro rest p
  simp only [readEscape, List.singleton_append, h]
  rfl

/-- A control character is written as its number or as a letter. The letters are listed, since
whether some character will do would be decided over all characters. -/
theorem escapeChar_control : ∀ n < 0x20,
    escapeChar (Char.ofNat n) = '\\' :: 'u' :: controlDigits n ∨
      ['b', 'f', 'n', 'r', 't'].any (fun letter ↦
        simpleEscape? letter == some (Char.ofNat n) &&
          escapeChar (Char.ofNat n) == ['\\', letter]) = true := by
  decide

theorem escapeChar_of_shown (hquote : c ≠ '"') (hbackslash : c ≠ '\\') (hshown : 0x20 ≤ c.toNat) :
    escapeChar c = [c] := by
  have hne : ∀ {d : Char}, d.toNat < 0x20 → c ≠ d := fun hd hc ↦ by
    rw [hc] at hshown
    omega
  rw [escapeChar, if_neg hquote, if_neg hbackslash, if_neg (hne (by decide)),
    if_neg (hne (by decide)), if_neg (hne (by decide)), if_neg (by omega), if_neg (by omega),
    if_neg (by omega), if_neg (by omega)]

theorem escapeChar_cases (c : Char) :
    (escapeChar c = [c] ∧ c ≠ '"' ∧ c ≠ '\\' ∧ 0x20 ≤ c.toNat) ∨
      ∃ letters, escapeChar c = '\\' :: letters ∧ Takes readEscape letters c := by
  by_cases hquote : c = '"'
  · rw [hquote]
    exact .inr ⟨['"'], rfl, takes_readEscape_of_simple (by decide)⟩
  by_cases hbackslash : c = '\\'
  · rw [hbackslash]
    exact .inr ⟨['\\'], rfl, takes_readEscape_of_simple (by decide)⟩
  by_cases hshown : 0x20 ≤ c.toNat
  · exact .inl ⟨escapeChar_of_shown hquote hbackslash hshown, hquote, hbackslash, hshown⟩
  · have hcontrol := escapeChar_control c.toNat (Nat.not_le.mp hshown)
    rw [Char.ofNat_toNat] at hcontrol
    rcases hcontrol with hescape | hshort
    · exact .inr ⟨_, hescape, takes_readEscape_of_control (Nat.not_le.mp hshown)⟩
    · obtain ⟨letter, -, hletter⟩ := List.any_eq_true.mp hshort
      rw [Bool.and_eq_true, beq_iff_eq, beq_iff_eq] at hletter
      exact .inr ⟨[letter], hletter.2, takes_readEscape_of_simple hletter.1⟩

/-! ## Strings -/

theorem readChars_escaped (s acc : List Char) {fuel : Nat} (hfuel : s.length < fuel)
    (rest : List Char) (p : Place) :
    readChars acc fuel ⟨s.flatMap escapeChar ++ '"' :: rest, p⟩ =
      .ok (String.ofList (acc.reverse ++ s),
        ⟨rest, placeAtEnd (s.flatMap escapeChar ++ ['"']) p⟩) := by
  induction s generalizing acc fuel p with
  | nil =>
    obtain ⟨fuel, rfl⟩ := Nat.exists_eq_succ_of_ne_zero (Nat.ne_zero_of_lt hfuel)
    rw [List.append_nil]
    rfl
  | cons c s ih =>
    obtain ⟨fuel, rfl⟩ := Nat.exists_eq_succ_of_ne_zero (Nat.ne_zero_of_lt hfuel)
    -- However `c` is written, one unit of fuel is spent on it and `c` is put before `acc`.
    have hrest := ih (c :: acc) (Nat.lt_of_succ_lt_succ hfuel)
    rw [List.reverse_cons, List.append_assoc, List.singleton_append] at hrest
    rw [List.flatMap_cons, List.append_assoc, List.append_assoc, placeAtEnd_append]
    rcases escapeChar_cases c with ⟨hplain, hquote, hbackslash, hshown⟩ | ⟨letters, hescape, htakes⟩
    · rw [hplain, List.singleton_append]
      simp only [readChars, if_neg hquote, if_neg hbackslash, if_neg (Nat.not_lt.mpr hshown),
        next_cons]
      exact hrest (p.after c)
    · have hread := htakes (s.flatMap escapeChar ++ '"' :: rest) (p.after '\\')
      have hother : ('\\' : Char) ≠ '"' := by decide
      rw [hescape, List.cons_append]
      simp only [readChars, if_neg hother, if_true, next_cons, hread, bind, Except.bind]
      exact hrest _

theorem length_le_length_flatMap_escapeChar (s : List Char) :
    s.length ≤ (s.flatMap escapeChar).length := by
  induction s with
  | nil => exact Nat.le_refl _
  | cons c s ih =>
    have hpos : 0 < (escapeChar c).length := by
      rcases escapeChar_cases c with ⟨hplain, -⟩ | ⟨letters, hescape, -⟩
      · rw [hplain]; exact Nat.one_pos
      · rw [hescape]; exact Nat.succ_pos _
    rw [List.flatMap_cons, List.length_append, List.length_cons]
    omega

/-- **A string that is written is read back**, whatever its characters are. -/
theorem readStringRest_written (s : String) (rest : List Char) (p : Place) :
    readStringRest ⟨s.toList.flatMap escapeChar ++ '"' :: rest, p⟩ =
      .ok (s, ⟨rest, placeAtEnd (s.toList.flatMap escapeChar ++ ['"']) p⟩) := by
  have hlength := length_le_length_flatMap_escapeChar s.toList
  rw [readStringRest, readChars_escaped s.toList [] (by rw [List.length_append]; omega),
    List.reverse_nil, List.nil_append, String.ofList_toList]

/-! ## Values inside arrays and objects -/

/-- What a reader makes of the text of a written value. The text does not begin like white space or
the end of an array, so it can stand inside one. -/
structure ReadsBack (reader : Reader α) (value : Json) (x : α) : Prop where
  takes : Takes reader (write value) x
  opens : ∃ c rest, write value = c :: rest ∧ ¬IsSpace c ∧ c ≠ ']'

theorem ReadsBack.length_pos {reader : Reader α} {value : Json} {x : α}
    (h : ReadsBack reader value x) : 0 < (write value).length := by
  obtain ⟨c, rest, htext, -⟩ := h.opens
  rw [htext]
  exact Nat.succ_pos _

theorem ReadsBack.map {reader : Reader α} {value : Json} {x : α} (f : α → σ)
    (h : ReadsBack reader value x) :
    ReadsBack (fun c ↦ do let (x, c) ← reader c; .ok (f x, c)) value (f x) where
  takes rest p := by
    simp only [h.takes rest p, bind, Except.bind]
  opens := h.opens

/-- What stands before an item or a field: a comma unless it is the first. -/
def separator (isFirst : Bool) : List Char := if isFirst then [] else [',']

/-- The texts of items each of which has its separator before it. -/
def writeItemsFrom : Bool → List Json → List Char
  | _, [] => []
  | isFirst, item :: more => separator isFirst ++ write item ++ writeItemsFrom false more

theorem writeItemsFrom_true (items : List Json) : writeItemsFrom true items = writeItems items := by
  induction items with
  | nil => rw [writeItemsFrom, writeItems]
  | cons item more ih =>
    cases more with
    | nil => simp [writeItemsFrom, writeItems, separator]
    | cons next more =>
      rw [writeItems, ← ih]
      · simp [writeItemsFrom, separator]
      · exact List.cons_ne_nil next more

def writeFieldsFrom : Bool → List (String × Json) → List Char
  | _, [] => []
  | isFirst, (name, value) :: more =>
    separator isFirst ++ writeString name ++ ':' :: write value ++ writeFieldsFrom false more

theorem writeFieldsFrom_true (fields : List (String × Json)) :
    writeFieldsFrom true fields = writeFields fields := by
  induction fields with
  | nil => rw [writeFieldsFrom, writeFields]
  | cons field more ih =>
    cases more with
    | nil => simp [writeFieldsFrom, writeFields, separator]
    | cons next more =>
      rw [writeFields, ← ih]
      · simp [writeFieldsFrom, separator]
      · exact List.cons_ne_nil next more

/-! ## Arrays -/

theorem nextItem?_separator (isFirst : Bool) (hspace : ¬IsSpace c) (hbracket : c ≠ ']') :
    nextItem? isFirst ⟨separator isFirst ++ c :: rest, p⟩ =
      .ok (some ⟨c :: rest, placeAtEnd (separator isFirst) p⟩) := by
  cases isFirst with
  | true =>
    simp only [nextItem?, separator, if_true, List.nil_append, space_cons hspace, if_neg hbracket]
    rfl
  | false =>
    have hcomma : ¬IsSpace ',' := by decide
    have hother : (',' : Char) ≠ ']' := by decide
    simp only [nextItem?, separator, Bool.false_eq_true, if_false, List.singleton_append,
      space_cons hcomma, if_neg hother, if_true, next_cons, space_cons hspace, if_neg hbracket]
    rfl

theorem readItems_written {readItem : Reader α} {items : List Json} {xs : List α}
    (hitems : List.Forall₂ (ReadsBack readItem) items xs) (acc : List α) {fuel : Nat}
    (hfuel : items.length < fuel) (isFirst : Bool) (rest : List Char) (p : Place) :
    readItems readItem acc fuel isFirst ⟨writeItemsFrom isFirst items ++ ']' :: rest, p⟩ =
      .ok (acc.reverse ++ xs, ⟨']' :: rest, placeAtEnd (writeItemsFrom isFirst items) p⟩) := by
  induction hitems generalizing acc fuel isFirst p with
  | nil =>
    obtain ⟨fuel, rfl⟩ := Nat.exists_eq_succ_of_ne_zero (Nat.ne_zero_of_lt hfuel)
    rw [List.append_nil]
    rfl
  | @cons item x items xs hitem _ ih =>
    obtain ⟨fuel, rfl⟩ := Nat.exists_eq_succ_of_ne_zero (Nat.ne_zero_of_lt hfuel)
    obtain ⟨c, text, htext, hspace, hbracket⟩ := hitem.opens
    -- The separator is passed over, then the item, and the rest is the text of the items behind.
    have hread := hitem.takes (writeItemsFrom false items ++ ']' :: rest)
      (placeAtEnd (separator isFirst) p)
    have hnext : nextItem? isFirst
        ⟨separator isFirst ++ (write item ++ (writeItemsFrom false items ++ ']' :: rest)), p⟩ =
          .ok (some ⟨write item ++ (writeItemsFrom false items ++ ']' :: rest),
            placeAtEnd (separator isFirst) p⟩) := by
      rw [htext]
      exact nextItem?_separator isFirst hspace hbracket
    have hmore := ih (x :: acc) (Nat.lt_of_succ_lt_succ hfuel) false
    rw [List.reverse_cons, List.append_assoc, List.singleton_append] at hmore
    simp only [writeItemsFrom, List.append_assoc, readItems, hnext, hread, bind, Except.bind,
      placeAtEnd_append, hmore]

theorem length_le_length_writeItemsFrom {readItem : Reader α} {items : List Json} {xs : List α}
    (hitems : List.Forall₂ (ReadsBack readItem) items xs) (isFirst : Bool) :
    items.length ≤ (writeItemsFrom isFirst items).length := by
  induction hitems generalizing isFirst with
  | nil => exact Nat.zero_le _
  | cons hitem _ ih =>
    have hpos := hitem.length_pos
    have hmore := ih false
    simp only [writeItemsFrom, List.length_append, List.length_cons]
    omega

/-- **An array that is written is read back**, item by item. -/
theorem takes_readArrayRest {readItem : Reader α} {items : List Json} {xs : List α}
    (hitems : List.Forall₂ (ReadsBack readItem) items xs) :
    Takes (readArrayRest readItem) (writeItems items ++ [']']) xs := by
  intro rest p
  have hlength := length_le_length_writeItemsFrom hitems true
  rw [writeItemsFrom_true] at hlength
  have hfuel : items.length < (writeItems items ++ ']' :: rest).length + 1 := by
    rw [List.length_append]
    omega
  have hread := readItems_written hitems [] hfuel true rest p
  rw [writeItemsFrom_true] at hread
  simp only [readArrayRest, List.append_assoc, List.singleton_append, hread, bind, Except.bind,
    placeAtEnd_append]
  rfl

/-! ## Objects -/

theorem nextKey?_separator (isFirst : Bool) :
    nextKey? isFirst ⟨separator isFirst ++ '"' :: rest, p⟩ =
      .ok (some ⟨'"' :: rest, placeAtEnd (separator isFirst) p⟩) := by
  cases isFirst <;> rfl

theorem readColon_cons : readColon ⟨':' :: rest, p⟩ = .ok ⟨rest, p.after ':'⟩ := rfl

theorem length_le_length_writeFieldsFrom (isFirst : Bool) (fields : List (String × Json)) :
    fields.length ≤ (writeFieldsFrom isFirst fields).length := by
  induction fields generalizing isFirst with
  | nil => exact Nat.zero_le _
  | cons field more ih =>
    have hmore := ih false
    simp only [writeFieldsFrom, List.length_append, List.length_cons]
    omega

/-- Every field's text is read in the same way: the separator, the name, the colon and the value. -/
theorem placeAtEnd_writeFieldsFrom_cons (isFirst : Bool) (name : String) (value : Json)
    (more : List (String × Json)) :
    placeAtEnd (writeFieldsFrom isFirst ((name, value) :: more)) p =
      placeAtEnd (writeFieldsFrom false more) (placeAtEnd (write value)
        (Place.after (placeAtEnd (name.toList.flatMap escapeChar ++ ['"'])
          (Place.after (placeAtEnd (separator isFirst) p) '"')) ':')) := by
  simp only [writeFieldsFrom, writeString, placeAtEnd_append, List.cons_append, placeAtEnd]

/-- What a reader makes of the text of a written field. -/
structure FieldReadsBack (readField : Reader Json) (field x : String × Json) : Prop where
  name : x.1 = field.1
  value : ReadsBack readField field.2 x.2

theorem readFields_written {readField : Reader Json} {fields read : List (String × Json)}
    (hfields : List.Forall₂ (FieldReadsBack readField) fields read)
    (acc : List (String × Json)) {fuel : Nat} (hfuel : fields.length < fuel) (isFirst : Bool)
    (rest : List Char) (p : Place) :
    readFields readField acc fuel isFirst
        ⟨writeFieldsFrom isFirst fields ++ '\x7d' :: rest, p⟩ =
      .ok (read.foldl (fun given x ↦ insertField x.1 x.2 given) acc,
        ⟨'\x7d' :: rest, placeAtEnd (writeFieldsFrom isFirst fields) p⟩) := by
  induction hfields generalizing acc fuel isFirst p with
  | nil =>
    obtain ⟨fuel, rfl⟩ := Nat.exists_eq_succ_of_ne_zero (Nat.ne_zero_of_lt hfuel)
    rfl
  | @cons field x fields read hfield _ ih =>
    obtain ⟨fuel, rfl⟩ := Nat.exists_eq_succ_of_ne_zero (Nat.ne_zero_of_lt hfuel)
    obtain ⟨_, value⟩ := field
    obtain ⟨name, y⟩ := x
    obtain ⟨rfl, hvalue⟩ := hfield
    have hmore := ih (insertField name y acc) (Nat.lt_of_succ_lt_succ hfuel) false
    rw [placeAtEnd_writeFieldsFrom_cons]
    simp only [writeFieldsFrom, writeString, List.append_assoc, List.cons_append, List.nil_append,
      readFields, nextKey?_separator, next_cons, readStringRest_written, readColon_cons,
      hvalue.takes _ _, hmore, bind, Except.bind, List.foldl_cons]

/-- What a record holds after fields were read into it, one by one. -/
inductive Fills (format : RecordFormat σ α) : List (String × Json) → σ → σ → Prop
  | nil {given : σ} : Fills format [] given given
  | cons {name : String} {value : Json} {more : List (String × Json)} {field : FieldFormat σ}
      {given next final : σ} (hfield : (format.fields.find? fun field ↦ field.name == name) = field)
      (hnew : field.isGiven given = false) (hvalue : ReadsBack (field.read given) value next)
      (hmore : Fills format more next final) : Fills format ((name, value) :: more) given final

theorem readNamed_written {format : RecordFormat σ α} {fields : List (String × Json)}
    {given final : σ} (hfills : Fills format fields given final) {fuel : Nat}
    (hfuel : fields.length < fuel) (isFirst : Bool) (rest : List Char) (p : Place) :
    readNamed format fuel isFirst given ⟨writeFieldsFrom isFirst fields ++ '\x7d' :: rest, p⟩ =
      .ok (final, ⟨'\x7d' :: rest, placeAtEnd (writeFieldsFrom isFirst fields) p⟩) := by
  induction hfills generalizing fuel isFirst p with
  | nil =>
    obtain ⟨fuel, rfl⟩ := Nat.exists_eq_succ_of_ne_zero (Nat.ne_zero_of_lt hfuel)
    rfl
  | @cons name value more field given next final hfield hnew hvalue _ ih =>
    obtain ⟨fuel, rfl⟩ := Nat.exists_eq_succ_of_ne_zero (Nat.ne_zero_of_lt hfuel)
    have hmore := ih (Nat.lt_of_succ_lt_succ hfuel) false
    rw [placeAtEnd_writeFieldsFrom_cons]
    simp only [writeFieldsFrom, writeString, List.append_assoc, List.cons_append, List.nil_append,
      readNamed, nextKey?_separator, next_cons, readStringRest_written, readColon_cons, hfield,
      hnew, Bool.false_eq_true, if_false, hvalue.takes _ _, hmore, bind, Except.bind]

/-! ## Whole values

The first character of a value decides how it is read. -/

theorem readValue_quote (room : Nat) :
    readValue room ⟨'"' :: rest, p⟩ = (do
      let (s, c) ← readStringRest ⟨rest, p.after '"'⟩
      .ok (.string s, c)) := by
  have hspace : ¬IsSpace '"' := by decide
  rw [readValue.eq_def]
  simp only [space_cons hspace]
  rfl

theorem readValue_bracket (room : Nat) :
    readValue (room + 1) ⟨'[' :: rest, p⟩ = (do
      let (items, c) ← readArrayRest (readValue room) ⟨rest, p.after '['⟩
      .ok (.array items, c)) := by
  have hspace : ¬IsSpace '[' := by decide
  rw [readValue]
  simp only [space_cons hspace]
  rfl

theorem readValue_brace (room : Nat) :
    readValue (room + 1) ⟨'\x7b' :: rest, p⟩ = (do
      let (fields, c) ← readFields (readValue room) [] (rest.length + 2) true
        ⟨rest, p.after '\x7b'⟩
      .ok (.object fields, ← closeObject c)) := by
  have hspace : ¬IsSpace '\x7b' := by decide
  rw [readValue]
  simp only [space_cons hspace]
  rfl

theorem readRecord_brace (format : RecordFormat σ α) :
    readRecord format ⟨'\x7b' :: rest, p⟩ = (do
      let (given, c) ← readNamed format (rest.length + 2) true format.empty
        ⟨rest, p.after '\x7b'⟩
      match format.complete given with
      | .ok record => .ok (record, ← closeObject c)
      | .error m => (afterObject c).mismatch m) := rfl

theorem closeObject_brace : closeObject ⟨'\x7d' :: rest, p⟩ = .ok ⟨rest, p.after '\x7d'⟩ := rfl

theorem readsBack_readString (s : String) : ReadsBack readString (.string s) s where
  takes rest p := by
    rw [write, writeString, List.cons_append, List.cons_append, List.append_assoc,
      List.singleton_append]
    exact readStringRest_written s rest (p.after '"')
  opens := ⟨'"', _, rfl, by decide, by decide⟩

theorem readsBack_string (room : Nat) (s : String) :
    ReadsBack (readValue room) (.string s) (.string s) where
  takes rest p := by
    rw [write, writeString, List.cons_append, List.cons_append, List.append_assoc,
      List.singleton_append, readValue_quote, readStringRest_written]
    rfl
  opens := ⟨'"', _, rfl, by decide, by decide⟩

theorem readsBack_readList {readItem : Reader α} {items : List Json} {xs : List α}
    (hitems : List.Forall₂ (ReadsBack readItem) items xs) :
    ReadsBack (readList readItem) (.array items) xs where
  takes rest p := takes_readArrayRest hitems rest (p.after '[')
  opens := ⟨'[', _, rfl, by decide, by decide⟩

theorem readsBack_array {room : Nat} {items xs : List Json}
    (hitems : List.Forall₂ (ReadsBack (readValue room)) items xs) :
    ReadsBack (readValue (room + 1)) (.array items) (.array xs) where
  takes rest p := by
    rw [write, List.cons_append, List.cons_append, readValue_bracket,
      takes_readArrayRest hitems rest (p.after '[')]
    rfl
  opens := ⟨'[', _, rfl, by decide, by decide⟩

/-- The bound on the number of fields that the readers of objects set themselves is never met. -/
theorem length_lt_of_writeFields (fields : List (String × Json)) (rest : List Char) :
    fields.length < (writeFields fields ++ '\x7d' :: rest).length + 2 := by
  have hlength := length_le_length_writeFieldsFrom true fields
  rw [writeFieldsFrom_true] at hlength
  rw [List.length_append]
  omega

/-- **An object that is written is read back**, its fields in the order of their names. -/
theorem readsBack_object {room : Nat} {fields read : List (String × Json)}
    (hfields : List.Forall₂ (FieldReadsBack (readValue room)) fields read) :
    ReadsBack (readValue (room + 1)) (.object fields)
      (.object (read.foldl (fun given x ↦ insertField x.1 x.2 given) [])) where
  takes rest p := by
    have hread := readFields_written hfields [] (length_lt_of_writeFields fields rest) true rest
      (p.after '\x7b')
    rw [writeFieldsFrom_true] at hread
    rw [write, List.cons_append, List.cons_append, List.append_assoc, List.singleton_append,
      readValue_brace, hread]
    simp only [bind, Except.bind, closeObject_brace, placeAtEnd, placeAtEnd_append]
  opens := ⟨'\x7b', _, rfl, by decide, by decide⟩

/-- **A record that is written as an object is read back**, if its fields fill the record. -/
theorem readsBack_readRecord {format : RecordFormat σ α} {fields : List (String × Json)}
    {final : σ} {x : α} (hfills : Fills format fields format.empty final)
    (hcomplete : format.complete final = .ok x) :
    ReadsBack (readRecord format) (.object fields) x where
  takes rest p := by
    have hread := readNamed_written hfills (length_lt_of_writeFields fields rest) true rest
      (p.after '\x7b')
    rw [writeFieldsFrom_true] at hread
    rw [write, List.cons_append, List.cons_append, List.append_assoc, List.singleton_append,
      readRecord_brace, hread]
    simp only [bind, Except.bind, hcomplete, closeObject_brace, placeAtEnd, placeAtEnd_append]
  opens := ⟨'\x7b', _, rfl, by decide, by decide⟩

theorem ReadsBack.readWhole_render {reader : Reader α} {value : Json} {x : α}
    (h : ReadsBack reader value x) : readWhole reader value.render = .ok x := by
  have hread := h.takes [] ⟨1, 0⟩
  rw [List.append_nil] at hread
  simp only [readWhole, Cursor.start, render, String.toList_ofList, hread]
  rfl

end Redline.Json
