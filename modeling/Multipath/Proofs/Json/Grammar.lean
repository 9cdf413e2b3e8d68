import Mathlib.Data.List.DropRight
import Multipath.Proofs.Json.Reader
import Multipath.Proofs.Json.Token

/-! The texts that write a JSON value. They differ in the blanks between their parts alone. The
compact and the indented form are among them, and the reader makes the value out of each. -/
namespace Multipath.Json

def Blanks (s : List Char) : Prop := ∀ c ∈ s, isBlank c = true

theorem blanks_nil : Blanks [] := nofun

theorem blanks_space : Blanks [' '] := by
  intro c member
  rw [List.mem_singleton.mp member]
  rfl

mutual

/-- A text writes a value, from its first character to its last. -/
inductive Writes : Value → List Char → Prop where
  | null : Writes .null "null".toList
  | bool (b : Bool) : Writes (.bool b) (if b then "true" else "false").toList
  | natural (n : Nat) : Writes (.natural n) (Text.decimal n)
  | string (s : String) : Writes (.string s) (stringText s)
  | emptyArray : Writes (.array []) ['[', ']']
  | array {items text} (inside : WritesItems items text) :
      Writes (.array items) ('[' :: text ++ [']'])
  | emptyObject : Writes (.object []) ['{', '}']
  | object {fields text} (inside : WritesFields fields text) :
      Writes (.object fields) ('{' :: text ++ ['}'])

inductive WritesItems : List Value → List Char → Prop where
  | last {item before text after} (ahead : Blanks before) (first : Writes item text)
      (behind : Blanks after) : WritesItems [item] (before ++ text ++ after)
  | cons {item items before text after more} (ahead : Blanks before) (first : Writes item text)
      (behind : Blanks after) (others : WritesItems items more) :
      WritesItems (item :: items) (before ++ text ++ after ++ ',' :: more)

inductive WritesFields : List (String × Value) → List Char → Prop where
  | last {name value before gap space text after} (ahead : Blanks before) (left : Blanks gap)
      (right : Blanks space) (first : Writes value text) (behind : Blanks after) :
      WritesFields [(name, value)]
        (before ++ stringText name ++ gap ++ ':' :: space ++ text ++ after)
  | cons {name value fields before gap space text after more} (ahead : Blanks before)
      (left : Blanks gap) (right : Blanks space) (first : Writes value text)
      (behind : Blanks after) (others : WritesFields fields more) :
      WritesFields ((name, value) :: fields)
        (before ++ stringText name ++ gap ++ ':' :: space ++ text ++ after ++ ',' :: more)

end

section Reading

variable {depth : Nat} {s rest after blanks : List Char}

theorem skipBlanks_append (blank : Blanks blanks) (s : List Char) :
    skipBlanks (blanks ++ s) = skipBlanks s :=
  List.dropWhile_append_of_pos blank

theorem skipBlanks_cons {c : Char} (visible : isBlank c = false) (s : List Char) :
    skipBlanks (c :: s) = c :: s := by
  simp [skipBlanks, visible]

theorem skipBlanks_append_cons {c : Char} (blank : Blanks blanks) (visible : isBlank c = false)
    (s : List Char) : skipBlanks (blanks ++ c :: s) = c :: s := by
  rw [skipBlanks_append blank, skipBlanks_cons visible]

theorem skipBlanks_skipBlanks (s : List Char) : skipBlanks (skipBlanks s) = skipBlanks s :=
  List.dropWhile_idempotent isBlank s

/-- A number ends before the blanks and the mark that follow a value. -/
theorem endsNumber_append (blank : Blanks blanks) (mark : Char) (stop : mark ∈ [',', ']', '}'])
    (rest : List Char) : EndsNumber (blanks ++ mark :: rest) := by
  have blankEnds : ∀ c, isBlank c = true → c.isDigit = false ∧ c ≠ '.' ∧ c ≠ 'e' ∧ c ≠ 'E' := by
    intro c h
    simp only [isBlank, Bool.or_eq_true, decide_eq_true_eq] at h
    rcases h with ((rfl | rfl) | rfl) | rfl <;> decide
  have markEnds : ∀ c ∈ [',', ']', '}'], c.isDigit = false ∧ c ≠ '.' ∧ c ≠ 'e' ∧ c ≠ 'E' := by
    intro c h
    simp only [List.mem_cons, List.not_mem_nil, or_false] at h
    rcases h with rfl | rfl | rfl <;> decide
  intro c atHead
  cases blanks with
  | nil =>
    cases atHead
    exact markEnds _ stop
  | cons b blanks =>
    cases atHead
    exact blankEnds c (blank c List.mem_cons_self)

theorem value?_skipBlanks (depth : Nat) (s : List Char) :
    value? depth (skipBlanks s) = value? depth s := by
  cases depth with
  | zero => rfl
  | succ depth => rw [value?, value?, skipBlanks_skipBlanks]

theorem items?_skipBlanks (depth : Nat) (s : List Char) :
    items? depth (skipBlanks s) = items? depth s := by
  cases depth with
  | zero => rfl
  | succ depth => rw [items?, items?, value?_skipBlanks]

theorem fields?_skipBlanks (depth : Nat) (s : List Char) :
    fields? depth (skipBlanks s) = fields? depth s := by
  cases depth with
  | zero => rfl
  | succ depth => rw [fields?, fields?, skipBlanks_skipBlanks]

/-- A reader that passes over blanks first reads the same with more of them ahead. -/
theorem read_append {read : List Char → α} (passes : ∀ s, read (skipBlanks s) = read s)
    (blank : Blanks blanks) (s : List Char) : read (blanks ++ s) = read s := by
  rw [← passes, skipBlanks_append blank, passes]

theorem value?_string (depth : Nat) (text : String) (rest : List Char) :
    value? (depth + 1) (stringText text ++ rest) = some (.string text, rest) := by
  have inside := stringRest_flatMap_escapeChar text.toList rest
  simp only [stringText, List.append_assoc, List.cons_append, List.nil_append]
  rw [value?, skipBlanks_cons rfl]
  simp [inside, stringValue, text?_map_char]

theorem value?_digit {c : Char} (digit : c.isDigit = true) (depth : Nat) (s : List Char) :
    value? (depth + 1) (c :: s) = number? (c :: s) := by
  have apart : ∀ d : Char, d.isDigit = false → c ≠ d := by
    rintro d other rfl
    rw [digit] at other
    contradiction
  have visible : isBlank c = false := by
    simp [isBlank, apart ' ' rfl, apart '\t' rfl, apart '\n' rfl, apart '\r' rfl]
  rw [value?, skipBlanks_cons visible]
  simp only
  split
  case h_7 => rfl
  all_goals rename_i split; exact absurd (List.cons.inj split).1 (apart _ rfl)

theorem value?_decimal (depth n : Nat) (ends : EndsNumber rest) :
    value? (depth + 1) (Text.decimal n ++ rest) = some (.natural n, rest) := by
  have whole := number?_decimal n ends
  cases written : Text.decimal n with
  | nil => exact absurd written (Text.decimal_ne_nil n)
  | cons c digits =>
    have digit : c.isDigit = true := Text.isDigit_of_mem_decimal (written ▸ List.mem_cons_self)
    rw [written, List.cons_append] at whole
    rw [List.cons_append, value?_digit digit, whole]

/-- The items of an array do not begin with its closing bracket. -/
theorem items?_bracket (depth : Nat) (rest : List Char) : items? depth (']' :: rest) = none := by
  match depth with
  | 0 => rfl
  | 1 => rfl
  | _ + 2 => rfl

theorem fields?_brace (depth : Nat) (rest : List Char) : fields? depth ('}' :: rest) = none := by
  cases depth with
  | zero => rfl
  | succ depth => rfl

theorem value?_array {items : List Value} (inside : items? depth s = some (items, after)) :
    value? (depth + 1) ('[' :: s) = some (.array items, after) := by
  rw [← items?_skipBlanks] at inside
  rw [value?, skipBlanks_cons rfl]
  simp only
  -- Had the array been closed here, there would be no item to read.
  split
  · rename_i closed
    rw [closed, items?_bracket] at inside
    contradiction
  · rw [inside]; rfl

/-- Names without half of a surrogate pair make an object. -/
theorem fieldsValue_named (whole rest : List Char) (fields : List (String × Value)) :
    fieldsValue whole rest (fields.map fun field => (some field.1, field.2)) = .object fields := by
  have named : (fields.map fun field => (some field.1, field.2)).mapM
      (fun (field : Option String × Value) => field.1.map (·, field.2)) = some (fields.map id) :=
    Value.mapM_map_of_forall fun _ _ => rfl
  rw [fieldsValue, named, List.map_id]

theorem value?_object {fields : List (String × Value)}
    (inside : fields? depth s = some (fields.map fun field => (some field.1, field.2), after)) :
    value? (depth + 1) ('{' :: s) = some (.object fields, after) := by
  rw [← fields?_skipBlanks] at inside
  rw [value?, skipBlanks_cons rfl]
  simp only
  split
  · rename_i closed
    rw [closed, fields?_brace] at inside
    contradiction
  · rw [inside]
    simp [fieldsValue_named]

theorem items?_last {item : Value} (read : value? depth s = some (item, rest))
    (close : skipBlanks rest = ']' :: after) : items? (depth + 1) s = some ([item], after) := by
  rw [items?, read]
  simp [close]

theorem items?_cons {item : Value} {items : List Value} {more : List Char}
    (read : value? depth s = some (item, rest)) (comma : skipBlanks rest = ',' :: more)
    (others : items? depth more = some (items, after)) :
    items? (depth + 1) s = some (item :: items, after) := by
  rw [items?, read]
  simp [comma, others]

theorem fields?_last {name : String} {value : Value} (left : Blanks blanks)
    (read : value? depth s = some (value, rest)) (close : skipBlanks rest = '}' :: after) :
    fields? (depth + 1) (stringText name ++ (blanks ++ ':' :: s)) =
      some ([(some name, value)], after) := by
  have inside := stringRest_flatMap_escapeChar name.toList (blanks ++ ':' :: s)
  have colon : skipBlanks (blanks ++ ':' :: s) = ':' :: s := skipBlanks_append_cons left rfl s
  rw [fields?]
  simp [stringText, skipBlanks_cons, isBlank, inside, colon, read, close, text?_map_char]

theorem fields?_cons {name : String} {value : Value} {more : List Char}
    {fields : List (Option String × Value)} (left : Blanks blanks)
    (read : value? depth s = some (value, rest)) (comma : skipBlanks rest = ',' :: more)
    (others : fields? depth more = some (fields, after)) :
    fields? (depth + 1) (stringText name ++ (blanks ++ ':' :: s)) =
      some ((some name, value) :: fields, after) := by
  have inside := stringRest_flatMap_escapeChar name.toList (blanks ++ ':' :: s)
  have colon : skipBlanks (blanks ++ ':' :: s) = ':' :: s := skipBlanks_append_cons left rfl s
  rw [fields?]
  simp [stringText, skipBlanks_cons, isBlank, inside, colon, read, comma, others, text?_map_char]

end Reading

theorem Writes.ne_nil {v : Value} {s : List Char} (written : Writes v s) : s ≠ [] := by
  cases written with
  | null => decide
  | bool b => cases b <;> decide
  | natural n => exact Text.decimal_ne_nil n
  | _ => exact List.cons_ne_nil _ _

mutual

/-- What is written for a value is read as that value, up to the end of what is written. -/
theorem value?_of_writes {v : Value} {s : List Char} (written : Writes v s) (depth : Nat)
    {rest : List Char} (deep : s.length ≤ depth) (ends : EndsNumber rest) :
    value? depth (s ++ rest) = some (v, rest) := by
  cases depth with
  | zero => exact absurd (List.length_eq_zero_iff.mp (Nat.le_zero.mp deep)) written.ne_nil
  | succ depth =>
    -- A bracket is passed over before the items are read, so they get by with less depth.
    cases written with
    | null => rfl
    | bool b => cases b <;> rfl
    | natural n => exact value?_decimal depth n ends
    | string text => exact value?_string depth text rest
    | emptyArray => rfl
    | array inside =>
      simp only [List.cons_append, List.append_assoc, List.length_cons, List.length_append]
        at deep ⊢
      exact value?_array (items?_of_writes inside depth (by omega) rest)
    | emptyObject => rfl
    | object inside =>
      simp only [List.cons_append, List.append_assoc, List.length_cons, List.length_append]
        at deep ⊢
      exact value?_object (fields?_of_writes inside depth (by omega) rest)
termination_by depth

theorem items?_of_writes {items : List Value} {s : List Char} (written : WritesItems items s)
    (depth : Nat) (deep : s.length < depth) (rest : List Char) :
    items? depth (s ++ ']' :: rest) = some (items, rest) := by
  cases depth with
  | zero => contradiction
  | succ depth =>
    cases written with
    | last ahead first behind =>
      simp only [List.append_assoc, List.length_append] at deep ⊢
      rw [read_append (items?_skipBlanks _) ahead]
      refine items?_last ?_ (skipBlanks_append_cons behind rfl _)
      exact value?_of_writes first depth (by omega) (endsNumber_append behind ']' (by decide) _)
    | cons ahead first behind others =>
      simp only [List.append_assoc, List.cons_append, List.length_append, List.length_cons]
        at deep ⊢
      have more := items?_of_writes others depth (by omega) rest
      rw [read_append (items?_skipBlanks _) ahead]
      refine items?_cons ?_ (skipBlanks_append_cons behind rfl _) more
      exact value?_of_writes first depth (by omega) (endsNumber_append behind ',' (by decide) _)
termination_by depth

theorem fields?_of_writes {fields : List (String × Value)} {s : List Char}
    (written : WritesFields fields s) (depth : Nat) (deep : s.length < depth) (rest : List Char) :
    fields? depth (s ++ '}' :: rest) =
      some (fields.map fun field => (some field.1, field.2), rest) := by
  cases depth with
  | zero => contradiction
  | succ depth =>
    cases written with
    | last ahead left right first behind =>
      simp only [List.append_assoc, List.cons_append, List.length_append, List.length_cons]
        at deep ⊢
      rw [read_append (fields?_skipBlanks _) ahead]
      refine fields?_last left ?_ (skipBlanks_append_cons behind rfl _)
      rw [read_append (value?_skipBlanks _) right]
      exact value?_of_writes first depth (by omega) (endsNumber_append behind '}' (by decide) _)
    | cons ahead left right first behind others =>
      simp only [List.append_assoc, List.cons_append, List.length_append, List.length_cons]
        at deep ⊢
      have more := fields?_of_writes others depth (by omega) rest
      rw [read_append (fields?_skipBlanks _) ahead]
      refine fields?_cons left ?_ (skipBlanks_append_cons behind rfl _) more
      rw [read_append (value?_skipBlanks _) right]
      exact value?_of_writes first depth (by omega) (endsNumber_append behind ',' (by decide) _)
termination_by depth

end

/-- A text that writes a value and nothing else is read as that value. -/
theorem parse?_of_writes {v : Value} {s : List Char} (written : Writes v s) :
    parse? (String.ofList s) = some v := by
  have ends : EndsNumber [] := nofun
  have read := value?_of_writes written (s.length + 1) (Nat.le_succ _) ends
  rw [List.append_nil] at read
  rw [parse?, String.toList_ofList, read]
  rfl

namespace Value

/-- No part of the value is a text that is only passed over. -/
inductive Plain : Value → Prop where
  | null : Plain .null
  | bool (b : Bool) : Plain (.bool b)
  | natural (n : Nat) : Plain (.natural n)
  | string (s : String) : Plain (.string s)
  | array {items : List Value} (each : ∀ item ∈ items, Plain item) : Plain (.array items)
  | object {fields : List (String × Value)} (each : ∀ field ∈ fields, Plain field.2) :
      Plain (.object fields)

theorem Plain.array_map {write : α → Value} {xs : List α} (each : ∀ x ∈ xs, Plain (write x)) :
    Plain (.array (xs.map write)) := by
  refine .array fun item member => ?_
  obtain ⟨x, listed, rfl⟩ := List.mem_map.mp member
  exact each x listed

section Compact

theorem writesItems_compactItems {items : List Value} (full : items ≠ [])
    (each : ∀ item ∈ items, Writes item item.compactText) :
    WritesItems items (compactItems items) := by
  induction items with
  | nil => contradiction
  | cons item items ih =>
    obtain ⟨first, others⟩ := List.forall_mem_cons.mp each
    cases items with
    | nil => simpa [compactItems] using WritesItems.last blanks_nil first blanks_nil
    | cons next items =>
      have more := ih (List.cons_ne_nil _ _) others
      simpa [compactItems] using WritesItems.cons blanks_nil first blanks_nil more

theorem writesFields_compactFields {fields : List (String × Value)} (full : fields ≠ [])
    (each : ∀ field ∈ fields, Writes field.2 field.2.compactText) :
    WritesFields fields (compactFields fields) := by
  have noBlanks := blanks_nil
  induction fields with
  | nil => contradiction
  | cons field fields ih =>
    obtain ⟨name, value⟩ := field
    obtain ⟨first, others⟩ := List.forall_mem_cons.mp each
    cases fields with
    | nil => simpa [compactFields] using WritesFields.last noBlanks noBlanks noBlanks first noBlanks
    | cons next fields =>
      have more := ih (List.cons_ne_nil _ _) others
      simpa [compactFields] using WritesFields.cons noBlanks noBlanks noBlanks first noBlanks more

/-- The form without blanks is one of the texts that write a value. -/
theorem Plain.writes_compactText {v : Value} (plain : Plain v) : Writes v v.compactText := by
  induction plain with
  | null => exact .null
  | bool b => exact .bool b
  | natural n => exact .natural n
  | string s => exact .string s
  | @array items _ ih =>
    rw [compactText]
    cases items with
    | nil => exact .emptyArray
    | cons item items => exact .array (writesItems_compactItems (List.cons_ne_nil _ _) ih)
  | @object fields _ ih =>
    rw [compactText]
    cases fields with
    | nil => exact .emptyObject
    | cons field fields => exact .object (writesFields_compactFields (List.cons_ne_nil _ _) ih)

end Compact

section Pretty

theorem blanks_newLine (level : Nat) : Blanks (newLine level) := by
  intro c member
  rcases List.mem_cons.mp member with rfl | space
  · rfl
  · rw [(List.mem_replicate.mp space).2]
    rfl

theorem writesItems_prettyItems {items : List Value} {level : Nat} {after : List Char}
    (full : items ≠ []) (each : ∀ item ∈ items, Writes item (prettyText level item))
    (blank : Blanks after) : WritesItems items (prettyItems level items ++ after) := by
  have line := blanks_newLine level
  induction items with
  | nil => contradiction
  | cons item items ih =>
    obtain ⟨first, others⟩ := List.forall_mem_cons.mp each
    cases items with
    | nil => simpa [prettyItems] using WritesItems.last line first blank
    | cons next items =>
      have more := ih (List.cons_ne_nil _ _) others
      simpa [prettyItems] using WritesItems.cons line first blanks_nil more

theorem writesFields_prettyFields {fields : List (String × Value)} {level : Nat}
    {after : List Char} (full : fields ≠ [])
    (each : ∀ field ∈ fields, Writes field.2 (prettyText level field.2)) (blank : Blanks after) :
    WritesFields fields (prettyFields level fields ++ after) := by
  have line := blanks_newLine level
  induction fields with
  | nil => contradiction
  | cons field fields ih =>
    obtain ⟨name, value⟩ := field
    obtain ⟨first, others⟩ := List.forall_mem_cons.mp each
    cases fields with
    | nil =>
      simpa [prettyFields] using WritesFields.last line blanks_nil blanks_space first blank
    | cons next fields =>
      have more := ih (List.cons_ne_nil _ _) others
      simpa [prettyFields] using
        WritesFields.cons line blanks_nil blanks_space first blanks_nil more

/-- So is the indented form, at every level. -/
theorem Plain.writes_prettyText {v : Value} (plain : Plain v) (level : Nat) :
    Writes v (prettyText level v) := by
  induction plain generalizing level with
  | null => exact .null
  | bool b => exact .bool b
  | natural n => exact .natural n
  | string s => exact .string s
  | @array items _ ih =>
    cases items with
    | nil => exact .emptyArray
    | cons item items =>
      have inside := writesItems_prettyItems (List.cons_ne_nil _ _)
        (fun item member => ih item member (level + 1)) (blanks_newLine level)
      rw [prettyText, List.cons_append]
      exact .array inside
  | @object fields _ ih =>
    cases fields with
    | nil => exact .emptyObject
    | cons field fields =>
      have inside := writesFields_prettyFields (List.cons_ne_nil _ _)
        (fun field member => ih field member (level + 1)) (blanks_newLine level)
      rw [prettyText, List.cons_append]
      exact .object inside

end Pretty

variable {v : Value}

@[simp] theorem parse?_compact (plain : Plain v) : parse? v.compact = some v :=
  parse?_of_writes plain.writes_compactText

@[simp] theorem parse?_pretty (plain : Plain v) : parse? v.pretty = some v :=
  parse?_of_writes (plain.writes_prettyText 0)

end Value
end Multipath.Json
