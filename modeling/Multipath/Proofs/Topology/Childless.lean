import Multipath.Proofs.Comparison.SymmetricDifference
import Multipath.Proofs.Topology.EdgeSet

/-! Labels that are listed without a child. Insertion makes none, but a document may list a label
with the empty array, and the topology that is read from it keeps the label. Such a label counts
wherever the labels are looked at and does not where the edges are: it is among the parents, it has
a set of children, it makes a topology different from others, and no comparison tells of it. -/
namespace Multipath

open Json (Value)

/-- The bindings of an object are its fields, each with the value that is read off it. -/
theorem Json.Value.bindings?_eq_some {value? : Value → Option α} {v : Value}
    {bindings : List (String × α)} (read : v.bindings? value? = some bindings) :
    ∃ fields, v = .object fields ∧ List.Forall₂
      (fun field binding => field.1 = binding.1 ∧ value? field.2 = some binding.2)
      fields bindings := by
  cases v with
  | object fields =>
    refine ⟨fields, rfl, ?_⟩
    simp only [bindings?] at read
    induction fields generalizing bindings with
    | nil =>
      obtain rfl := Option.some.inj read
      exact .nil
    | cons field fields ih =>
      simp only [List.mapM_cons, bind, Option.bind_eq_some_iff, Option.map_eq_some_iff] at read
      obtain ⟨_, ⟨value, first, rfl⟩, others, later, whole⟩ := read
      obtain rfl := Option.some.inj whole
      exact .cons ⟨rfl, first⟩ (ih later)
  | _ => cases read

namespace LabelMap

theorem get?_foldl_insert (m : LabelMap α) (bindings : List (String × α)) (key : String) :
    (bindings.foldl (fun m binding => m.insert binding.1 binding.2) m).get? key =
      ((bindings.reverse.find? (·.1 == key)).map Prod.snd).or (m.get? key) := by
  induction bindings generalizing m with
  | nil => rfl
  | cons binding bindings ih =>
    rw [List.foldl_cons, ih, get?_insert, List.reverse_cons, List.find?_append]
    cases bindings.reverse.find? (·.1 == key) with
    | some later => rfl
    | none =>
      by_cases isKey : binding.1 = key
      · simp [isKey]
      · simp [isKey, Ne.symm isKey]

/-- Of several bindings of a key the last counts. -/
theorem get?_ofList (bindings : List (String × α)) (key : String) :
    (ofList bindings).get? key = (bindings.reverse.find? (·.1 == key)).map Prod.snd := by
  rw [ofList, get?_foldl_insert, get?_empty, Option.or_none]

/-- A map is read off the last field of each name. -/
theorem get?_ofJson? {value? : Value → Option α} {v : Value} {m : LabelMap α}
    (read : ofJson? value? v = some m) :
    ∃ fields, v = .object fields ∧ ∀ key,
      m.get? key = (fields.reverse.find? (·.1 == key)).bind fun field => value? field.2 := by
  obtain ⟨bindings, listed, rfl⟩ := Option.map_eq_some_iff.mp read
  obtain ⟨fields, rfl, pairs⟩ := Value.bindings?_eq_some listed
  refine ⟨fields, rfl, fun key => ?_⟩
  rw [get?_ofList]
  replace pairs := List.rel_reverse pairs
  generalize fields.reverse = fields at pairs ⊢
  generalize bindings.reverse = bindings at pairs ⊢
  induction pairs with
  | nil => rfl
  | @cons field binding _ _ sameField _ ih =>
    by_cases isKey : field.1 = key <;> simp [← sameField.1, isKey, sameField.2, ih]

end LabelMap

namespace LabelSet

theorem eq_empty_iff {s : LabelSet} : s = ∅ ↔ ∀ label, label ∉ s := by
  simp [ext_iff_mem]

theorem ofJson?_eq_empty_iff {v : Value} : ofJson? v = some ∅ ↔ v = .array [] := by
  constructor
  · intro read
    obtain ⟨labels, listed, empty⟩ := Option.map_eq_some_iff.mp read
    obtain rfl : labels = [] := by
      simpa [eq_empty_iff, ← List.eq_nil_iff_forall_not_mem] using empty
    cases v with
    | array items =>
      cases items with
      | nil => rfl
      | cons item items => simp [Value.array?, List.mapM_cons, Option.bind_eq_some_iff] at listed
    | _ => cases listed
  · rintro rfl
    rfl

end LabelSet

namespace Topology

variable {t u : Topology} {label : String}

def childless (t : Topology) : List String := (t.nodes.filter fun _ children => children = ∅).keys

/-- What can be made: the empty topology, any topology with one more edge, and whatever is read
from a text. -/
inductive Made : Topology → Prop where
  | empty : Made ∅
  | insert {t : Topology} (made : Made t) (parent child : String) : Made (t.insert parent child).2
  | read {t : Topology} (text : String) (accepted : parse? text = some t) : Made t

/-- There is a text for every topology, so there is nothing that cannot be made. -/
theorem made (t : Topology) : t.Made := .read _ t.parse?_compact

theorem mem_childless_iff : label ∈ t.childless ↔ t.children? label = some ∅ := by
  rw [childless, LabelMap.mem_keys_iff]
  simp only [LabelMap.get?_filter, Option.filter_eq_some_iff, decide_eq_true_eq, children?]
  constructor
  · rintro ⟨children, listed, rfl⟩
    exact listed
  · exact fun listed => ⟨∅, listed, rfl⟩

theorem childbearing_iff_childless : t.Childbearing ↔ t.childless = [] := by
  simp only [childbearing_iff, List.eq_nil_iff_forall_not_mem, mem_childless_iff]
  constructor
  · intro bears label listed
    obtain ⟨child, member⟩ := bears label ∅ listed
    exact LabelSet.not_mem_empty child member
  · intro bearing label children listed
    by_contra empty
    refine bearing label (listed.trans (congrArg some ?_))
    exact LabelSet.eq_empty_iff.mpr (not_exists.mp empty)

/-- A label stays childless until an edge is added to it, and none becomes so. -/
theorem mem_childless_addEdges {edges : List Edge} :
    label ∈ (t.addEdges edges).childless ↔
      label ∈ t.childless ∧ ∀ child, (label, child) ∉ edges := by
  simp only [mem_childless_iff]
  induction edges generalizing t with
  | nil => simp [addEdges]
  | cons edge edges ih =>
    obtain ⟨parent, child⟩ := edge
    have step : t.addEdges ((parent, child) :: edges) =
      (t.addEdge parent child).addEdges edges := rfl
    rw [step, ih, children?_addEdge]
    by_cases isParent : label = parent
    · subst label
      have grown : ((t.children? parent).getD ∅).insert child ≠ ∅ := fun empty =>
        LabelSet.eq_empty_iff.mp empty child (by simp)
      constructor
      · rintro ⟨listed, -⟩
        exact absurd (by simpa using listed) grown
      · rintro ⟨-, unused⟩
        exact absurd List.mem_cons_self (unused child)
    · simp [isParent]

/-- A label of a document is childless if the last field of its name holds the empty array. -/
theorem mem_childless_ofJson? {v : Value} (read : ofJson? v = some t) :
    ∃ fields, v = .object fields ∧ ∀ label,
      label ∈ t.childless ↔
        (fields.reverse.find? (·.1 == label)).map Prod.snd = some (.array []) := by
  obtain ⟨nodes, listed, rfl⟩ := Option.map_eq_some_iff.mp read
  obtain ⟨fields, rfl, last⟩ := LabelMap.get?_ofJson? listed
  refine ⟨fields, rfl, fun label => ?_⟩
  rw [mem_childless_iff, children?, last]
  cases fields.reverse.find? (·.1 == label) with
  | none => simp
  | some field => simp [LabelSet.ofJson?_eq_empty_iff]

theorem isSome_children?_iff :
    (t.children? label).isSome = true ↔
      label ∈ t.childless ∨ ∃ child, t.hasEdge label child = true := by
  rw [mem_childless_iff]
  cases listed : t.children? label with
  | none => simp [hasEdge_iff, listed]
  | some children =>
    have split : children = ∅ ∨ ∃ child, child ∈ children := by
      by_contra neither
      obtain ⟨full, lacking⟩ := not_or.mp neither
      exact full (LabelSet.eq_empty_iff.mpr (not_exists.mp lacking))
    simpa [hasEdge_of_children? listed] using split

theorem mem_parents_iff_isSome : label ∈ t.parents ↔ (t.children? label).isSome = true := by
  rw [parents, LabelMap.mem_keys_iff, Option.isSome_iff_exists]
  rfl

theorem edgeCount_eq_zero_iff :
    t.edgeCount = 0 ↔ ∀ parent child, ¬t.hasEdge parent child = true := by
  rw [← length_edges, List.length_eq_zero_iff, List.eq_nil_iff_forall_not_mem]
  simp only [mem_edges, Prod.forall]

theorem isEmpty_iff_childless : t.isEmpty = true ↔ t.edgeCount = 0 ∧ t.childless = [] := by
  simp only [isEmpty_iff_parents, edgeCount_eq_zero_iff, List.eq_nil_iff_forall_not_mem,
    mem_parents_iff_isSome, isSome_children?_iff, not_or, not_exists]
  exact ⟨fun unlisted => ⟨fun label => (unlisted label).2, fun label => (unlisted label).1⟩,
    fun empty label => ⟨empty.2 label, empty.1 label⟩⟩

theorem children?_eq_some_iff (t : Topology) (label : String) (children : LabelSet) :
    t.children? label = some children ↔
      (label ∈ t.childless ∨ ∃ child, t.hasEdge label child = true) ∧
        ∀ child, child ∈ children ↔ t.hasEdge label child = true := by
  rw [← isSome_children?_iff]
  constructor
  · intro listed
    exact ⟨by simp [listed], fun child => (hasEdge_of_children? listed child).symm⟩
  · rintro ⟨present, members⟩
    obtain ⟨others, listed⟩ := Option.isSome_iff_exists.mp present
    have equal : others = children := LabelSet.ext_iff_mem.mpr fun child =>
      (hasEdge_of_children? listed child).symm.trans (members child).symm
    rw [listed, equal]

/-- A topology is known by its edges together with the labels that have none. -/
theorem eq_iff_edges_childless : t = u ↔
    (∀ parent child, t.hasEdge parent child = true ↔ u.hasEdge parent child = true) ∧
      t.childless = u.childless := by
  constructor
  · rintro rfl
    exact ⟨fun _ _ => Iff.rfl, rfl⟩
  · rintro ⟨edges, childless⟩
    have nodes : t.nodes = u.nodes := by
      refine LabelMap.ext_iff_get?.mpr fun label => Option.ext fun children => ?_
      have ofT := t.children?_eq_some_iff label children
      simp only [edges, childless] at ofT
      exact ofT.trans (u.children?_eq_some_iff label children).symm
    cases t; cases u
    simpa using nodes

/-- A comparison tells of the edges alone. -/
theorem isEmpty_between_iff : (Comparison.between t u).isEmpty = true ↔
    ∀ parent child, t.hasEdge parent child = true ↔ u.hasEdge parent child = true :=
  Comparison.isEmpty_iff_verdict.trans Comparison.verdict_between_eq_pass_iff

/-- Any topology can be made, also with childless labels. Insertion makes no such label and takes it
away where an edge is added to it; a text makes one where the last field of a name holds the empty
array. An empty comparison tells that the edges are the same, and two topologies are equal if
besides the same labels are childless. The labels that are listed, and those that have a set of
children, are the childless ones and those with an edge; a topology is empty if it has neither. -/
theorem childless_apart_from_edges (t u : Topology) :
    t.Made ∧
    (∀ edges, (ofEdges edges).childless = []) ∧
    (∀ edges label, label ∈ (t.addEdges edges).childless ↔
      label ∈ t.childless ∧ ∀ child, (label, child) ∉ edges) ∧
    (∀ text, parse? text = some t → ∃ fields, Json.parse? text = some (.object fields) ∧
      ∀ label, label ∈ t.childless ↔
        (fields.reverse.find? (·.1 == label)).map Prod.snd = some (.array [])) ∧
    ((Comparison.between t u).isEmpty = true ↔ ∀ edge, edge ∈ t.edges ↔ edge ∈ u.edges) ∧
    (t = u ↔ (Comparison.between t u).isEmpty = true ∧ t.childless = u.childless) ∧
    (∀ label, label ∈ t.parents ↔ label ∈ t.childless ∨ ∃ child, (label, child) ∈ t.edges) ∧
    (∀ label, (t.children? label).isSome = true ↔
      label ∈ t.childless ∨ ∃ child, (label, child) ∈ t.edges) ∧
    (t.isEmpty = true ↔ t.edgeCount = 0 ∧ t.childless = []) := by
  simp only [mem_edges, mem_parents_iff_isSome, Prod.forall]
  refine ⟨t.made, fun edges => ?_, fun edges label => mem_childless_addEdges, ?_,
    isEmpty_between_iff, ?_, fun label => isSome_children?_iff, fun label => isSome_children?_iff,
    isEmpty_iff_childless⟩
  · exact childbearing_iff_childless.mp (childbearing_ofEdges edges)
  · intro text accepted
    obtain ⟨v, valid, read⟩ := Option.bind_eq_some_iff.mp accepted
    obtain ⟨fields, rfl, last⟩ := mem_childless_ofJson? read
    exact ⟨fields, valid, last⟩
  · rw [eq_iff_edges_childless, isEmpty_between_iff]

/-- A name is written twice, and the empty array comes last. -/
theorem childless_apart_from_edges_rewritten :
    let fields := [("A", .array [.string "B"]), ("A", .array [])]
    ∃ t, parse? (Value.object fields).compact = some t ∧ "A" ∈ t.childless ∧ t ≠ ∅ := by
  intro fields
  have plain : Value.Plain (.object fields) :=
    .object (by simp [fields, Value.Plain.string, Value.Plain.array])
  obtain ⟨t, read⟩ : ∃ t, ofJson? (.object fields) = some t := ⟨_, rfl⟩
  have accepted : parse? (Value.object fields).compact = some t := by simp [parse?, plain, read]
  obtain ⟨-, -, -, written, -, empties, -⟩ := childless_apart_from_edges t ∅
  obtain ⟨others, valid, last⟩ := written _ accepted
  have equal : fields = others := by simpa [plain] using valid
  have member : "A" ∈ t.childless := by
    rw [last, ← equal]
    rfl
  refine ⟨t, accepted, member, fun empty => ?_⟩
  rw [(empties.mp empty).2] at member
  exact absurd member (by decide)

/-- A document with a childless label differs from the empty topology, but in no edge. -/
theorem childless_label_uncompared :
    let t : Topology := ⟨LabelMap.ofList [("A", ∅)]⟩
    parse? "\x7b\"A\":[]\x7d" = some t ∧ t ≠ ∅ ∧ (Comparison.between t ∅).isEmpty = true ∧
      t.parents = ["A"] ∧ t.children? "A" = some ∅ ∧ t.edges = [] ∧
      t.isEmpty = false ∧ t.edgeCount = 0 := by
  intro t
  have written : t.toJson.compact = "\x7b\"A\":[]\x7d" := by decide
  exact ⟨written ▸ t.parse?_compact, by decide, rfl, rfl, rfl, rfl, rfl, rfl⟩

end Topology
end Multipath
