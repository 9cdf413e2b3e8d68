import Multipath.Proofs.Lattice.Malformed

/-! The grammar of records. A record is a parent and its children, and where there is a child there
may be an arrow. The arrow is written between the parent and the children, but it is accepted
behind some or all of the children as well, and it is not read wherever it stands. -/
namespace Multipath.Lattice

/-- Tokens that name a parent and its children, with or without an arrow behind the parent. -/
structure IsRecordOf (parent : List Char) (children tokens : List (List Char)) : Prop where
  parent_ne : parent ≠ arrow
  not_mem : arrow ∉ children
  shape : tokens = parent :: children ∨ children ≠ [] ∧
    ∃ left right, children = left ++ right ∧ tokens = parent :: (left ++ arrow :: right)

def IsSeparated (tokens : List (List Char)) : Prop :=
  ∃ parent children, parent ≠ arrow ∧ arrow ∉ children ∧
    (tokens = parent :: children ∨ children ≠ [] ∧ tokens = parent :: arrow :: children)

def HasLateArrow (tokens : List (List Char)) : Prop :=
  ∃ parent first left right, parent ≠ arrow ∧ arrow ∉ first :: (left ++ right) ∧
    tokens = parent :: first :: (left ++ arrow :: right)

section Tokens

variable {destination : String} {parent : List Char}
  {children left right tokens : List (List Char)}

theorem filter_ne_arrow (noArrow : arrow ∉ children) : children.filter (· ≠ arrow) = children := by
  refine List.filter_eq_self.mpr fun child member => ?_
  have notArrow : child ≠ arrow := fun isArrow => noArrow (isArrow ▸ member)
  simpa using notArrow

/-- A record is read as the parent and the children that it names. -/
theorem ofTokens?_of_isRecordOf (names : IsRecordOf parent children tokens) (destination : String) :
    Record.ofTokens? destination tokens =
      some ⟨parentLabel parent, children.map (childLabel destination)⟩ := by
  obtain ⟨leads, noArrow, rfl | ⟨full, left, right, rfl, rfl⟩⟩ := names
  · have count : children.count arrow = 0 := List.count_eq_zero.mpr noArrow
    simp only [Record.ofTokens?, filter_ne_arrow noArrow, count]
    simp [leads, noArrow]
  · have kept : (left ++ arrow :: right).filter (· ≠ arrow) = left ++ right := by
      rw [List.filter_append, List.filter_cons_of_neg (by simp), ← List.filter_append,
        filter_ne_arrow noArrow]
    have count : (left ++ arrow :: right).count arrow = 1 := by
      have uncounted := List.count_eq_zero.mpr noArrow
      rw [List.count_append] at uncounted ⊢
      rw [List.count_cons_self]
      omega
    simp only [Record.ofTokens?, kept, count]
    simp [leads, full]

theorem IsRecordOf.not_isMalformed (names : IsRecordOf parent children tokens) :
    ¬IsMalformed tokens := by
  intro malformed
  have unread := (@ofTokens?_eq_none_iff "" tokens).mpr malformed
  rw [ofTokens?_of_isRecordOf names] at unread
  contradiction

/-- What is not malformed is a record of a parent and its children. -/
theorem exists_isRecordOf (sound : ¬IsMalformed tokens) :
    ∃ parent children, IsRecordOf parent children tokens := by
  simp only [IsMalformed, not_or, not_and, not_forall, not_lt] at sound
  obtain ⟨full, leads, once, leadsSomewhere⟩ := sound
  obtain ⟨parent, rest, rfl⟩ := List.exists_cons_of_ne_nil full
  have other : parent ≠ arrow := by simpa using leads
  -- The first arrow parts the tokens behind the parent, and there is no second one among them.
  by_cases pointed : arrow ∈ rest
  · obtain ⟨left, right, rfl, early⟩ := List.eq_append_cons_of_mem pointed
    have late : arrow ∉ right := by
      have count := once
      rw [List.count_cons_of_ne other, List.count_append, List.count_cons_self] at count
      exact List.count_eq_zero.mp (by omega)
    obtain ⟨child, member, apart⟩ := leadsSomewhere (List.mem_cons_of_mem _ pointed)
    have inside : child ∈ left ++ right := by
      simpa [apart] using member
    exact ⟨parent, left ++ right, other, by simp [early, late],
      .inr ⟨List.ne_nil_of_mem inside, left, right, rfl, rfl⟩⟩
  · exact ⟨parent, rest, other, pointed, .inl rfl⟩

theorem ofTokens?_eq_some_iff {record : Record} :
    Record.ofTokens? destination tokens = some record ↔
      ∃ parent children, IsRecordOf parent children tokens ∧
        record = ⟨parentLabel parent, children.map (childLabel destination)⟩ := by
  constructor
  · intro read
    have sound : ¬IsMalformed tokens := by
      rw [← @ofTokens?_eq_none_iff destination, read]
      exact Option.some_ne_none record
    obtain ⟨parent, children, names⟩ := exists_isRecordOf sound
    rw [ofTokens?_of_isRecordOf names] at read
    exact ⟨parent, children, names, (Option.some.inj read).symm⟩
  · rintro ⟨parent, children, names, rfl⟩
    exact ofTokens?_of_isRecordOf names destination

/-- A record has its arrow, if it has one, right behind the parent or behind a child. -/
theorem exists_isRecordOf_iff :
    (∃ parent children, IsRecordOf parent children tokens) ↔
      IsSeparated tokens ∨ HasLateArrow tokens := by
  constructor
  · rintro ⟨parent, children, leads, noArrow, bare | ⟨full, left, right, rfl, whole⟩⟩
    · exact .inl ⟨parent, children, leads, noArrow, .inl bare⟩
    · cases left with
      | nil => exact .inl ⟨parent, right, leads, noArrow, .inr ⟨full, whole⟩⟩
      | cons first left => exact .inr ⟨parent, first, left, right, leads, noArrow, whole⟩
  · rintro (⟨parent, children, leads, noArrow, shape⟩ | late)
    · refine ⟨parent, children, leads, noArrow, shape.imp_right ?_⟩
      exact fun ⟨full, whole⟩ => ⟨full, [], children, rfl, whole⟩
    · obtain ⟨parent, first, left, right, leads, noArrow, whole⟩ := late
      exact ⟨parent, first :: (left ++ right), leads, noArrow,
        .inr ⟨List.cons_ne_nil _ _, first :: left, right, rfl, whole⟩⟩

theorem not_isSeparated_of_hasLateArrow (late : HasLateArrow tokens) : ¬IsSeparated tokens := by
  obtain ⟨parent, first, left, right, -, noArrow, rfl⟩ := late
  rintro ⟨other, children, -, noArrow', bare | ⟨-, pointed⟩⟩
  · obtain ⟨-, rfl⟩ := List.cons.inj bare
    exact noArrow' (by simp)
  · obtain ⟨-, behind⟩ := List.cons.inj pointed
    obtain ⟨rfl, -⟩ := List.cons.inj behind
    exact noArrow List.mem_cons_self

end Tokens

/-- The lines that are accepted as records. The arrow of a record stands between the parent and the
children, or behind some of the children, and then it may as well stand last. It is not read: the
record is that of the parent and the children alone. -/
theorem accepts_separated_and_late_arrow (line : List Char) (destination : String) :
    ((∃ record, Record.ofTokens? destination (tokens line) = some record) ↔
      IsSeparated (tokens line) ∨ HasLateArrow (tokens line)) ∧
    ¬(IsSeparated (tokens line) ∧ HasLateArrow (tokens line)) ∧
    ∀ record, Record.ofTokens? destination (tokens line) = some record ↔
      ∃ parent children, IsRecordOf parent children (tokens line) ∧
        record = ⟨parentLabel parent, children.map (childLabel destination)⟩ := by
  refine ⟨?_, ?_, fun record => ofTokens?_eq_some_iff⟩
  · rw [← exists_isRecordOf_iff]
    simp only [ofTokens?_eq_some_iff]
    constructor
    · rintro ⟨_, parent, children, names, -⟩
      exact ⟨parent, children, names⟩
    · rintro ⟨parent, children, names⟩
      exact ⟨_, parent, children, names, rfl⟩
  · rintro ⟨separated, late⟩
    exact not_isSeparated_of_hasLateArrow late separated

/-- The arrow stands last, behind the only child, and leads nowhere. -/
theorem accepts_arrow_to_nowhere :
    (∃ record, Record.ofTokens? "10.0.9.9" (tokens "A B ->".toList) = some record) ∧
    ¬IsSeparated (tokens "A B ->".toList) ∧
    parse "Lattice:\nA B ->\n" "10.0.9.9" = .ok (.ofEdges [("A", "B")]) := by
  have late : HasLateArrow (tokens "A B ->".toList) :=
    ⟨"A".toList, "B".toList, [], [], by decide, by decide, rfl⟩
  exact ⟨⟨⟨"A", ["B"]⟩, rfl⟩, not_isSeparated_of_hasLateArrow late, rfl⟩

end Multipath.Lattice
