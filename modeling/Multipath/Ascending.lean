/-! Lists in strictly increasing order of a label, the common ground of label sets and
label maps. The order of labels is that of their code points. Two ascending lists with
the same members are equal, so a collection kept in this form has one representation. -/
namespace Multipath

def Ascending (label : α → String) (xs : List α) : Prop :=
  xs.Pairwise fun a b => label a < label b

namespace Ascending

/-- Put an element at its place, instead of the element of the same label if there is one. -/
def place (label : α → String) (x : α) : List α → List α
  | [] => [x]
  | y :: ys =>
    if label x < label y then x :: y :: ys
    else if label x = label y then x :: ys
    else y :: place label x ys

theorem lt_of_not_lt_of_ne {a b : String} (h : ¬a < b) (hne : a ≠ b) : b < a := by
  rcases Std.lt_trichotomy a b with hlt | heq | hgt
  · exact absurd hlt h
  · exact absurd heq hne
  · exact hgt

theorem mem_place {label : α → String} {x z : α} {xs : List α} (h : z ∈ place label x xs) :
    z = x ∨ z ∈ xs := by
  induction xs with
  | nil => simpa [place] using h
  | cons y ys ih =>
    rw [place] at h
    split at h
    · simpa using h
    · split at h
      · rcases List.mem_cons.1 h with rfl | h
        · exact .inl rfl
        · exact .inr (List.mem_cons_of_mem _ h)
      · rcases List.mem_cons.1 h with rfl | h
        · exact .inr List.mem_cons_self
        · exact (ih h).imp_right (List.mem_cons_of_mem _)

theorem place_ascending {label : α → String} {x : α} {xs : List α} (h : Ascending label xs) :
    Ascending label (place label x xs) := by
  induction xs with
  | nil => exact List.pairwise_singleton ..
  | cons y ys ih =>
    have ⟨first, rest⟩ := List.pairwise_cons.1 h
    rw [place]
    split
    · rename_i lt
      refine List.pairwise_cons.2 ⟨fun z hz => ?_, h⟩
      rcases List.mem_cons.1 hz with rfl | hz
      · exact lt
      · exact String.lt_trans lt (first z hz)
    · split
      · rename_i eq
        exact List.pairwise_cons.2 ⟨fun z hz => eq ▸ first z hz, rest⟩
      · rename_i notLt ne
        refine List.pairwise_cons.2 ⟨fun z hz => ?_, ih rest⟩
        rcases mem_place hz with rfl | hz
        · exact lt_of_not_lt_of_ne notLt ne
        · exact first z hz

/-- Dropping elements keeps the order. -/
theorem filter {label : α → String} {xs : List α} (keep : α → Bool) (h : Ascending label xs) :
    Ascending label (xs.filter keep) :=
  List.Pairwise.sublist List.filter_sublist h

/-- A map that keeps the labels keeps the order. -/
theorem map {label : α → String} {label' : β → String} {f : α → β} {xs : List α}
    (keeps : ∀ x, label' (f x) = label x) (h : Ascending label xs) : Ascending label' (xs.map f) :=
  List.Pairwise.map f (fun a b lt => by rw [keeps a, keeps b]; exact lt) h

end Ascending
end Multipath
