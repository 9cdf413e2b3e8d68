import Multipath.Proofs.FileTree
import Multipath.Proofs.Text.Utf8

/-! What is written to a path is found there. Writing changes what there is at one place, and a
path that led to this place through directories and links still does. What is done at places that
a path does not rest on makes no difference to it. -/
namespace Multipath.FileTree

variable {t u : FileTree} {place : Location} {p : Path} {content : List UInt8}

theorem isEnd_fill (t : FileTree) (place : Location) (content : List UInt8) :
    (t.fill place content).IsEnd place := by
  intro entry present
  rw [get?_fill_self, Option.mem_some_iff] at present
  subst present
  cases t.get? place with
  | none => exact .inl rfl
  | some old =>
    cases old with
    | file | program | overwritten | directory | link => exact .inl rfl
    | sink | full => exact .inr rfl

theorem openForWriting_eq_ok (opened : t.openForWriting p = .ok place) :
    ∃ found, t.walk .create p = .ok found ∧ found.place? = some place := by
  cases led : t.walk .create p with
  | error fault => simp [openForWriting, led, bind, Except.bind] at opened
  | ok found =>
    refine ⟨found, rfl, ?_⟩
    cases found <;> simp_all [openForWriting, bind, Except.bind, Found.place?]

/-- The path of a file that was opened for writing leads to what was written. -/
theorem walk_fill (opened : t.openForWriting p = .ok place) (content : List UInt8) :
    (t.fill place content).walk .look p =
      .ok (.entry place (.refill (t.get? place) content)) := by
  obtain ⟨found, led, reaches⟩ := openForWriting_eq_ok opened
  have entry : (t.fill place content).foundAt place =
      .entry place (.refill (t.get? place) content) := by
    rw [foundAt, get?_fill_self]
  unfold walk at led ⊢
  split at led
  · contradiction
  · rw [← entry]
    exact walkFrom_to_place (t.agreeOff_fill place content) (foundAt_of_walkFrom led reaches).2
      (t.isEnd_fill place content) led reaches

theorem write_eq_ok (written : t.write p content = .ok u) :
    ∃ place, t.openForWriting p = .ok place ∧ u = t.fill place content ∧
      (t.get? place = some .full → content = []) := by
  cases opened : t.openForWriting p with
  | error fault => simp [write, opened, bind, Except.bind] at written
  | ok place =>
    simp only [write, opened, bind, Except.bind] at written
    split at written
    · contradiction
    · rename_i roomy
      cases written
      exact ⟨place, rfl, rfl, fun full => by simpa [full] using roomy⟩

/-- After something was written to a path, the path leads to the device that keeps nothing, or
what was written is read. -/
theorem read_of_write (written : t.write p content = .ok u) (something : content ≠ []) :
    ∃ place entry, u.walk .look p = .ok (.entry place entry) ∧
      (entry ≠ .sink → u.read p = .ok content) := by
  obtain ⟨place, opened, rfl, roomy⟩ := write_eq_ok written
  have led := walk_fill opened content
  refine ⟨place, _, led, fun kept => ?_⟩
  simp only [read, led, bind, Except.bind]
  cases old : t.get? place with
  | none => rfl
  | some entry =>
    cases entry with
    | file | program | overwritten | directory | link => rfl
    | sink => exact absurd (by rw [old]; rfl) kept
    | full => exact absurd (roomy old) something

theorem readText_eq_ok {text : String} (kept : t.read p = .ok (Text.Utf8.encode text.toList)) :
    t.readText p = .ok text := by
  simp [readText, kept, bind, Except.bind]

theorem readText_eq_notText {bytes : List UInt8} (kept : t.read p = .ok bytes)
    (noText : ∀ text : String, bytes ≠ Text.Utf8.encode text.toList) :
    t.readText p = .error .notText := by
  have unread : Text.Utf8.decode? bytes = none := by
    refine Option.eq_none_iff_forall_ne_some.mpr fun s decoded => noText (String.ofList s) ?_
    rw [String.toList_ofList]
    exact Text.Utf8.decode?_eq_some_iff.mp decoded
  simp [readText, kept, bind, Except.bind, unread]

/-- What a path leads to depends on no more than what there is at some places. -/
def RestsOn (t : FileTree) (p : Path) (places : Location → Prop) : Prop :=
  ∀ u : FileTree, (∀ place, places place → u.get? place = t.get? place) →
    ∀ purpose, u.walk purpose p = t.walk purpose p

theorem RestsOn.read {places : Location → Prop} (rests : t.RestsOn p places)
    (kept : ∀ place, places place → u.get? place = t.get? place) : u.read p = t.read p := by
  rw [FileTree.read, FileTree.read, rests u kept]

/-- The path of a file in the working directory rests on the place of this file. -/
theorem restsOn_of_down {name : Name} (single : steps p = [.down name])
    (relative : origin p [] = []) (short : name.length ≤ longestName) (ends : t.IsEnd [name]) :
    t.RestsOn p (· = [name]) := by
  intro u kept purpose
  have sameEntry : u.get? [name] = t.get? [name] := kept [name] rfl
  have alike : u.foundAt [name] = t.foundAt [name] := by rw [foundAt, foundAt, sameEntry]
  have endsToo : u.IsEnd [name] := fun entry present => ends entry (sameEntry ▸ present)
  simp only [walk, single, relative, mostLinks, walkFrom]
  rw [descend_end ends short, descend_end endsToo short, alike]

end Multipath.FileTree
