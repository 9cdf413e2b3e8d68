import Mathlib.Data.List.Nodup
import Multipath.Json.Reader

/-! Parts of a document are read out of the value that was made of them: the items of a list, the
bindings of a map, and the fields of a record of which no two have the same name. -/
namespace Multipath.Json.Value

/-- All of a list is read if each of its members is. -/
theorem mapM_map_of_forall {write : α → β} {read? : β → Option γ} {f : α → γ} {xs : List α}
    (each : ∀ x ∈ xs, read? (write x) = some (f x)) :
    (xs.map write).mapM read? = some (xs.map f) := by
  induction xs with
  | nil => rfl
  | cons x xs ih =>
    obtain ⟨first, others⟩ := List.forall_mem_cons.mp each
    rw [List.map_cons, List.mapM_cons, first, ih others]
    rfl

/-- Each member of a list that is read was read off something. -/
theorem exists_of_mem_mapM {read? : α → Option β} {xs : List α} {ys : List β}
    (read : xs.mapM read? = some ys) {y : β} (member : y ∈ ys) : ∃ x, read? x = some y := by
  induction xs generalizing ys with
  | nil =>
    obtain rfl := Option.some.inj read
    contradiction
  | cons x xs ih =>
    simp only [List.mapM_cons, bind, Option.bind_eq_some_iff] at read
    obtain ⟨first, now, others, later, whole⟩ := read
    obtain rfl := Option.some.inj whole
    rcases List.mem_cons.mp member with rfl | among
    · exact ⟨x, now⟩
    · exact ih later among

theorem exists_of_mem_array? {item? : Value → Option α} {v : Value} {xs : List α}
    (read : v.array? item? = some xs) {x : α} (member : x ∈ xs) :
    ∃ item, item? item = some x := by
  cases v with
  | array items => exact exists_of_mem_mapM read member
  | _ => contradiction

theorem word?_le {v : Value} {n : Nat} (read : v.word? = some n) : n ≤ Text.largestWord := by
  cases v with
  | natural m =>
    simp only [word?, natural?] at read
    split at read
    · cases read
      assumption
    · contradiction
  | _ => contradiction

theorem word?_natural {n : Nat} (fits : n ≤ Text.largestWord) : (Value.natural n).word? = some n :=
  if_pos fits

theorem array?_map {write : α → Value} {item? : Value → Option α} {xs : List α}
    (back : ∀ x ∈ xs, item? (write x) = some x) :
    (Value.array (xs.map write)).array? item? = some xs := by
  rw [array?, mapM_map_of_forall back, List.map_id']

theorem bindings?_map {write : α → Value} {value? : Value → Option α} {xs : List (String × α)}
    (back : ∀ x ∈ xs, value? (write x.2) = some x.2) :
    (Value.object (xs.map fun (key, x) => (key, write x))).bindings? value? = some xs := by
  have each : ∀ x ∈ xs, (value? (write x.2)).map (x.1, ·) = some x := by
    intro x member
    rw [back x member]
    rfl
  rw [bindings?, mapM_map_of_forall each, List.map_id']

section Records

variable {fields : List (String × Value)} {names : List String}

theorem filter_eq_singleton (apart : (fields.map Prod.fst).Nodup) {field : String × Value}
    (member : field ∈ fields) : fields.filter (·.1 == field.1) = [field] := by
  induction fields with
  | nil => contradiction
  | cons other fields ih =>
    obtain ⟨new, apart⟩ := List.nodup_cons.mp apart
    rcases List.mem_cons.mp member with rfl | later
    · have noneLater : fields.filter (·.1 == field.1) = [] := by
        refine List.filter_eq_nil_iff.mpr fun f later sameName => new ?_
        rw [← eq_of_beq sameName]
        exact List.mem_map_of_mem later
      simp [noneLater]
    · have differs : other.1 ≠ field.1 := fun sameName => new (sameName ▸ List.mem_map_of_mem later)
      simp [differs, ih apart later]

/-- A record is read field by field, in the order in which it is written. -/
theorem record?_object (named : fields.map Prod.fst = names) (apart : names.Nodup) :
    (Value.object fields).record? names = some (fields.map Prod.snd) := by
  subst named
  refine mapM_map_of_forall fun field member => ?_
  rw [field?, filter_eq_singleton apart member]

/-- A record without fields of other names is read alike. -/
theorem closedRecord?_object (named : fields.map Prod.fst = names) (apart : names.Nodup) :
    (Value.object fields).closedRecord? names = some (fields.map Prod.snd) := by
  have own : fields.all (names.contains ·.1) = true := by
    simp only [List.all_eq_true, List.contains_iff_mem, ← named]
    exact fun field member => List.mem_map_of_mem member
  rw [closedRecord?, if_pos own, record?_object named apart]

end Records
end Multipath.Json.Value
