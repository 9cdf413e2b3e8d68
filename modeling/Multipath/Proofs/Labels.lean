import Mathlib.Data.List.Sort
import Multipath.LabelMap

/-! Label sets and label maps through their members. Placing an element replaces the one of
the same label and leaves all others, so a set or a map is known by what it holds, and two
that hold the same are equal. -/
namespace Multipath

namespace Ascending

variable {label : α → String} {xs ys : List α}

theorem mem_place_iff (h : Ascending label xs) {x z : α} :
    z ∈ place label x xs ↔ z = x ∨ z ∈ xs ∧ label z ≠ label x := by
  induction xs with
  | nil => simp [place]
  | cons y ys ih =>
    obtain ⟨first, rest⟩ := List.pairwise_cons.mp h
    have above (lt : label x < label y ∨ label x = label y) : ∀ z ∈ ys, label z ≠ label x := by
      intro z member sameLabel
      have later := first z member
      rw [sameLabel] at later
      rcases lt with lt | eq
      · exact absurd (String.lt_trans lt later) (String.lt_irrefl _)
      · exact absurd (eq ▸ later) (String.lt_irrefl _)
    rw [place]
    split
    · rename_i lt
      have apart : label y ≠ label x := fun sameLabel => String.lt_irrefl _ (sameLabel ▸ lt)
      have := above (.inl lt)
      grind
    · split
      · rename_i eq
        have := above (.inr eq)
        grind
      · rename_i ne
        have := ih rest
        grind

theorem label_injective (h : Ascending label xs) {a b : α} (ha : a ∈ xs) (hb : b ∈ xs)
    (sameLabel : label a = label b) : a = b := by
  induction xs with
  | nil => contradiction
  | cons x xs ih =>
    obtain ⟨first, rest⟩ := List.pairwise_cons.mp h
    rcases List.mem_cons.mp ha with isFirst | later
    · rcases List.mem_cons.mp hb with also | after
      · exact isFirst.trans also.symm
      · have lt := first b after
        rw [← isFirst, sameLabel] at lt
        exact absurd lt (String.lt_irrefl _)
    · rcases List.mem_cons.mp hb with also | after
      · have lt := first a later
        rw [← also, sameLabel] at lt
        exact absurd lt (String.lt_irrefl _)
      · exact ih rest later after

theorem nodup (h : Ascending label xs) : xs.Nodup := by
  refine List.nodup_iff_pairwise_ne.mpr (h.imp fun {a b} lt equal => ?_)
  rw [equal] at lt
  exact String.lt_irrefl _ lt

/-- Two ascending lists with the same members are the same list. -/
theorem ext (hx : Ascending label xs) (hy : Ascending label ys)
    (sameMembers : ∀ z, z ∈ xs ↔ z ∈ ys) : xs = ys := by
  have perm : xs.Perm ys := (List.perm_ext_iff_of_nodup hx.nodup hy.nodup).mpr sameMembers
  refine perm.eq_of_pairwise (fun a b _ _ lt gt => ?_) hx hy
  exact absurd (String.lt_trans lt gt) (String.lt_irrefl _)

theorem place_of_all_lt {x : α} (last : ∀ y ∈ xs, label y < label x) :
    place label x xs = xs ++ [x] := by
  induction xs with
  | nil => rfl
  | cons y ys ih =>
    obtain ⟨lt, others⟩ := List.forall_mem_cons.mp last
    have notLt : ¬label x < label y := fun gt => String.lt_irrefl _ (String.lt_trans lt gt)
    have ne : label x ≠ label y := fun sameLabel => String.lt_irrefl _ (sameLabel ▸ lt)
    rw [place, if_neg notLt, if_neg ne, ih others, List.cons_append]

/-- Placing the elements of an ascending list one by one gives the list. -/
theorem foldl_place (h : Ascending label (xs ++ ys)) :
    ys.foldl (fun placed y => place label y placed) xs = xs ++ ys := by
  induction ys generalizing xs with
  | nil => simp
  | cons y ys ih =>
    have last : ∀ x ∈ xs, label x < label y := fun x member =>
      (List.pairwise_append.mp h).2.2 x member y List.mem_cons_self
    rw [List.foldl_cons, place_of_all_lt last, ih (by simpa using h)]
    simp

end Ascending

namespace LabelSet

theorem ext_iff_mem {s t : LabelSet} : s = t ↔ ∀ label, label ∈ s ↔ label ∈ t := by
  constructor
  · rintro rfl label
    rfl
  · intro sameMembers
    have lists : s.toList = t.toList := s.ascending.ext t.ascending sameMembers
    cases s; cases t
    simpa using lists

@[simp] theorem not_mem_empty (label : String) : label ∉ (∅ : LabelSet) := List.not_mem_nil

@[simp] theorem mem_insert {s : LabelSet} {x label : String} :
    label ∈ s.insert x ↔ label = x ∨ label ∈ s := by
  rw [mem_iff, insert, s.ascending.mem_place_iff, ← mem_iff]
  by_cases isInserted : label = x <;> simp [isInserted]

theorem mem_foldl_insert {labels : List String} {s : LabelSet} {label : String} :
    label ∈ labels.foldl insert s ↔ label ∈ labels ∨ label ∈ s := by
  induction labels generalizing s with
  | nil => simp
  | cons x labels ih => rw [List.foldl_cons, ih, mem_insert, List.mem_cons]; tauto

@[simp] theorem mem_ofList {labels : List String} {label : String} :
    label ∈ ofList labels ↔ label ∈ labels := by
  simp [ofList, mem_foldl_insert]

@[simp] theorem ofList_toList (s : LabelSet) : ofList s.toList = s :=
  ext_iff_mem.mpr fun _ => mem_ofList

theorem sharedSize_self (s : LabelSet) : s.sharedSize s = s.size :=
  List.countP_eq_length.mpr fun _ => contains_iff.mpr

/-- What two sets share does not depend on which of them is searched for the members of the
other. -/
theorem sharedSize_comm (s t : LabelSet) : s.sharedSize t = t.sharedSize s := by
  rw [sharedSize, sharedSize, List.countP_eq_length_filter, List.countP_eq_length_filter]
  apply List.Perm.length_eq
  apply (List.perm_ext_iff_of_nodup (s.ascending.nodup.filter _) (t.ascending.nodup.filter _)).mpr
  intro label
  simp only [List.mem_filter, contains_iff, mem_iff]
  exact And.comm

end LabelSet

namespace LabelMap

variable {m n : LabelMap α} {key : String} {value : α}

theorem eq_of_entries (sameEntries : m.entries = n.entries) : m = n := by
  cases m; cases n
  simpa using sameEntries

theorem get?_eq_some_iff : m.get? key = some value ↔ (key, value) ∈ m.entries := by
  constructor
  · intro found
    obtain ⟨entry, atKey, rfl⟩ := Option.map_eq_some_iff.mp found
    have hasKey : entry.1 = key := by simpa using List.find?_some atKey
    exact hasKey ▸ List.mem_of_find?_eq_some atKey
  · intro member
    have bound : (m.entries.find? fun entry => entry.1 == key).isSome := by
      rw [List.find?_isSome]
      exact ⟨_, member, beq_self_eq_true key⟩
    obtain ⟨entry, atKey⟩ := Option.isSome_iff_exists.mp bound
    have hasKey : entry.1 = key := by simpa using List.find?_some atKey
    have only := m.ascending.label_injective (List.mem_of_find?_eq_some atKey) member hasKey
    rw [get?, atKey, only]
    rfl

theorem mem_keys_iff : key ∈ m.keys ↔ ∃ value, m.get? key = some value := by
  simp [keys, get?_eq_some_iff]

theorem ext_iff_get? : m = n ↔ ∀ key, m.get? key = n.get? key := by
  constructor
  · rintro rfl key
    rfl
  · intro sameValues
    have entries : m.entries = n.entries := by
      refine m.ascending.ext n.ascending fun entry => ?_
      rw [← get?_eq_some_iff, ← get?_eq_some_iff, sameValues]
    exact eq_of_entries entries

@[simp] theorem get?_empty (key : String) : (∅ : LabelMap α).get? key = none := rfl

theorem get?_insert (m : LabelMap α) (key other : String) (value : α) :
    (m.insert key value).get? other = if other = key then some value else m.get? other := by
  ext found
  rw [get?_eq_some_iff, insert, m.ascending.mem_place_iff, ← get?_eq_some_iff]
  by_cases isKey : other = key
  · simp [isKey, eq_comm]
  · simp [isKey]

theorem get?_filter (m : LabelMap α) (keep : String → α → Bool) (key : String) :
    (m.filter keep).get? key = (m.get? key).filter (keep key) := by
  ext found
  rw [get?_eq_some_iff, Option.filter_eq_some_iff, get?_eq_some_iff]
  simp [filter]

@[simp] theorem get?_map (f : String → α → β) (m : LabelMap α) (key : String) :
    (m.map f).get? key = (m.get? key).map (f key) := by
  ext found
  rw [get?_eq_some_iff, Option.map_eq_some_iff]
  simp only [get?_eq_some_iff, map, List.mem_map, Prod.mk.injEq]
  constructor
  · rintro ⟨⟨other, value⟩, member, rfl, rfl⟩
    exact ⟨value, member, rfl⟩
  · rintro ⟨value, member, rfl⟩
    exact ⟨(key, value), member, rfl, rfl⟩

theorem entries_foldl_insert (m : LabelMap α) (bindings : List (String × α)) :
    (bindings.foldl (fun m binding => m.insert binding.1 binding.2) m).entries =
      bindings.foldl (fun placed binding => Ascending.place Prod.fst binding placed) m.entries := by
  induction bindings generalizing m with
  | nil => rfl
  | cons binding bindings ih => exact ih _

@[simp] theorem ofList_entries (m : LabelMap α) : ofList m.entries = m := by
  apply eq_of_entries
  rw [ofList, entries_foldl_insert]
  exact Ascending.foldl_place m.ascending

theorem map_map (g : String → β → γ) (f : String → α → β) (m : LabelMap α) :
    (m.map f).map g = m.map fun key value => g key (f key value) := by
  apply ext_iff_get?.mpr
  intro key
  simp [Function.comp_def]

end LabelMap
end Multipath
