import Multipath.Proofs.Lattice.Labels

/-! What the destination of a report changes. It decides neither what a record is nor what is wrong
with one. All it does is to rename the children that are equal to it, so the lattice for any
destination comes from that for the empty one, which no token is equal to. -/
namespace Multipath

namespace Topology

/-- A topology with its children under other labels. -/
def relabel (rename : String → String) (t : Topology) : Topology :=
  .ofEdges (t.edges.map fun edge => (edge.1, rename edge.2))

variable {t : Topology} {rename : String → String}

theorem hasEdge_relabel {parent child : String} :
    (t.relabel rename).hasEdge parent child = true ↔
      ∃ old, t.hasEdge parent old = true ∧ child = rename old := by
  simp only [relabel, hasEdge_ofEdges, List.mem_map, mem_edges, Prod.mk.injEq]
  constructor
  · rintro ⟨⟨_, old⟩, edge, rfl, rfl⟩
    exact ⟨old, edge, rfl⟩
  · rintro ⟨old, edge, rfl⟩
    exact ⟨(parent, old), edge, rfl, rfl⟩

theorem relabel_ofEdges (edges : List Edge) (rename : String → String) :
    (ofEdges edges).relabel rename = ofEdges (edges.map fun edge => (edge.1, rename edge.2)) := by
  apply ofEdges_eq_iff.mpr
  intro edge
  simp only [List.mem_map, mem_edges, hasEdge_ofEdges]

namespace Childbearing

theorem parents_relabel (bears : t.Childbearing) (rename : String → String) :
    (t.relabel rename).parents = t.parents := by
  have others : (t.relabel rename).Childbearing := childbearing_ofEdges _
  refine @Ascending.ext _ id _ _ (LabelMap.keys_ordered _) (LabelMap.keys_ordered _) fun label => ?_
  show label ∈ (t.relabel rename).parents ↔ label ∈ t.parents
  rw [others.mem_parents_iff, bears.mem_parents_iff]
  simp only [hasEdge_relabel]
  constructor
  · rintro ⟨_, old, edge, rfl⟩
    exact ⟨old, edge⟩
  · rintro ⟨old, edge⟩
    exact ⟨rename old, old, edge, rfl⟩

theorem relabel_eq_self (bears : t.Childbearing)
    (fixed : ∀ parent child, t.hasEdge parent child = true → rename child = child) :
    t.relabel rename = t := by
  refine (childbearing_ofEdges _).ext bears fun parent child => ?_
  rw [← relabel, hasEdge_relabel]
  constructor
  · rintro ⟨old, edge, rfl⟩
    rwa [fixed parent old edge]
  · intro edge
    exact ⟨child, edge, (fixed parent child edge).symm⟩

end Childbearing
end Topology

namespace Lattice

def renamed (destination label : String) : String :=
  if label = destination then destinationLabel else label

def Record.relabel (rename : String → String) (r : Record) : Record :=
  ⟨r.parent, r.children.map rename⟩

section Records

variable {destination : String} {line token : List Char} {tokens : List (List Char)}

theorem childLabel_empty (full : token ≠ []) : childLabel "" token = String.ofList token :=
  if_neg full

theorem childLabel_eq_renamed (full : token ≠ []) (destination : String) :
    childLabel destination token = renamed destination (childLabel "" token) := by
  have sameText : String.ofList token = destination ↔ token = destination.toList := by
    rw [← String.toList_inj, String.toList_ofList]
  rw [childLabel_empty full, childLabel, renamed]
  simp only [sameText]

/-- Whether tokens are a record, and of what parent, does not depend on the destination. -/
theorem ofTokens?_eq_map_relabel (full : ∀ token ∈ tokens, token ≠ []) (destination : String) :
    Record.ofTokens? destination tokens =
      (Record.ofTokens? "" tokens).map (Record.relabel (renamed destination)) := by
  cases tokens with
  | nil => rfl
  | cons parent rest =>
    have children : (rest.filter (· ≠ arrow)).map (childLabel destination) =
        ((rest.filter (· ≠ arrow)).map (childLabel "")).map (renamed destination) := by
      rw [List.map_map]
      refine List.map_congr_left fun token kept => ?_
      have inside := (List.mem_filter.mp kept).1
      exact childLabel_eq_renamed (full token (List.mem_cons_of_mem _ inside)) destination
    -- The arrow is told from the children before the destination is, so both tests split alike.
    rw [Record.ofTokens?, Record.ofTokens?]
    split
    · rfl
    · rw [children]
      rfl

theorem ne_nil_of_mem_tokens (member : token ∈ Lattice.tokens line) : token ≠ [] := by
  simpa using (List.mem_filter.mp member).2

theorem readRecords_eq_map_relabel (destination : String) (block : List (Nat × List Char)) :
    readRecords destination block =
      (readRecords "" block).map (List.map (Record.relabel (renamed destination))) := by
  induction block with
  | nil => rfl
  | cons line block ih =>
    obtain ⟨number, line⟩ := line
    have full : ∀ token ∈ Lattice.tokens line, token ≠ [] := fun _ => ne_nil_of_mem_tokens
    have relabelled := ofTokens?_eq_map_relabel full destination
    cases read : Record.ofTokens? "" (Lattice.tokens line) with
    | none =>
      rw [read] at relabelled
      rw [readRecords_malformed read, readRecords_malformed relabelled]
      rfl
    | some record =>
      rw [read] at relabelled
      rw [readRecords_record read, readRecords_record relabelled, ih]
      cases readRecords "" block <;> rfl

end Records

section Report

variable {report destination : String}

theorem edges_relabel (r : Record) (rename : String → String) :
    (r.relabel rename).edges = r.edges.map fun edge => (edge.1, rename edge.2) := by
  simp [Record.edges, Record.relabel, Function.comp_def]

theorem parse_eq_map_relabel (report destination : String) :
    parse report destination = (parse report "").map (Topology.relabel (renamed destination)) := by
  rw [parse, parse]
  cases block? report.toList with
  | none => rfl
  | some block =>
    simp only [readRecords_eq_map_relabel destination block]
    cases readRecords "" block with
    | error e => rfl
    | ok records =>
      simp only [Except.map, Topology.relabel_ofEdges, List.flatMap_map, List.map_flatMap,
        edges_relabel]

/-- A destination that is no child in the block is as good as none. -/
theorem parse_of_no_child
    (absent : ∀ before opening block after,
      Framed (Text.lines report.toList) before opening block after →
      ∀ line ∈ block, ∀ token ∈ (tokens line).tail, token ≠ arrow → token ≠ destination.toList) :
    parse report destination = parse report "" := by
  rw [parse_eq_map_relabel]
  cases read : parse report "" with
  | error e => rfl
  | ok t =>
    obtain ⟨before, opening, block, after, framed, -⟩ := parse_isOk_iff.mp ⟨t, read⟩
    refine congrArg Except.ok
      ((childbearing_of_parse read).relabel_eq_self fun parent child edge => ?_)
    obtain ⟨line, inside, first, rest, token, whole, member, other, -, rfl⟩ :=
      (hasEdge_of_parse framed read).mp edge
    have among : token ∈ tokens line := by simp [whole, member]
    have full : token ≠ [] := ne_nil_of_mem_tokens among
    have apart := absent before opening block after framed line inside token
      (by simpa [whole] using member) other
    rw [← childLabel_eq_renamed full, childLabel_empty full, childLabel, if_neg apart]

/-- The destination only renames. For any two destinations a report is accepted both times, or
rejected with the same error. If it is accepted, its edges are those for the empty destination, but
for each child that is equal to the destination; the parents are the same. Two destinations that
are no children in the block make no difference. -/
theorem destination_only_renames (report : String) :
    (∀ one other,
      (∃ t u, parse report one = .ok t ∧ parse report other = .ok u) ∨
        ∃ e, parse report one = .error e ∧ parse report other = .error e) ∧
    (∀ destination t u, parse report "" = .ok t → parse report destination = .ok u →
      (∀ parent child, u.hasEdge parent child = true ↔
        ∃ old, t.hasEdge parent old = true ∧ child = if old = destination then "end" else old) ∧
      u.parents = t.parents) ∧
    ∀ one other,
      (∀ before opening block after, Framed (Text.lines report.toList) before opening block after →
        ∀ line ∈ block, ∀ token ∈ (tokens line).tail, token ≠ "->".toList →
          token ≠ one.toList ∧ token ≠ other.toList) →
      parse report one = parse report other := by
  refine ⟨fun one other => ?_, fun destination t u read renamedRead => ?_,
    fun one other absent => ?_⟩
  · rw [parse_eq_map_relabel report one, parse_eq_map_relabel report other]
    cases parse report "" with
    | error e => exact .inr ⟨e, rfl, rfl⟩
    | ok t => exact .inl ⟨_, _, rfl, rfl⟩
  · rw [parse_eq_map_relabel, read] at renamedRead
    obtain rfl := Except.ok.inj renamedRead
    refine ⟨fun parent child => Topology.hasEdge_relabel, ?_⟩
    exact (childbearing_of_parse read).parents_relabel _
  · have first : parse report one = parse report "" :=
      parse_of_no_child fun before opening block after framed line inside token member apart =>
        (absent before opening block after framed line inside token member apart).1
    have second : parse report other = parse report "" :=
      parse_of_no_child fun before opening block after framed line inside token member apart =>
        (absent before opening block after framed line inside token member apart).2
    rw [first, second]

/-- The destination is a child of one parent and the parent of another child. The children of the
former are the destination and a label that is that of the destination already. -/
theorem destination_only_renames_parent :
    ∃ t u, parse "Lattice:\na -> [ b, end ]\nb, c\n" "" = .ok t ∧
      parse "Lattice:\na -> [ b, end ]\nb, c\n" "b" = .ok u ∧
      (∀ parent child, u.hasEdge parent child = true ↔
        ∃ old, t.hasEdge parent old = true ∧ child = if old = "b" then "end" else old) ∧
      u.parents = t.parents ∧ t.edgeCount = 3 ∧ u.edgeCount = 2 := by
  have read : parse "Lattice:\na -> [ b, end ]\nb, c\n" "" =
      .ok (.ofEdges [("a", "b"), ("a", "end"), ("b", "c")]) := rfl
  have renamedRead : parse "Lattice:\na -> [ b, end ]\nb, c\n" "b" =
      .ok (.ofEdges [("a", "end"), ("b", "c")]) := rfl
  obtain ⟨-, renames, -⟩ := destination_only_renames "Lattice:\na -> [ b, end ]\nb, c\n"
  obtain ⟨edges, parents⟩ := renames "b" _ _ read renamedRead
  exact ⟨_, _, read, renamedRead, edges, parents, by decide, by decide⟩

end Report
end Lattice
end Multipath
