import Mathlib.Data.List.Basic
import Multipath.Text.Utf8

/-! Texts are read back from the bytes that encode them, and no other bytes are read as a text. The
first byte of a character promises as many further bytes as the character has, between bounds that
these bytes keep. -/
namespace Multipath.Text.Utf8

def Partial.Allows (p : Partial) (b : UInt8) : Prop := p.low ≤ b ∧ b ≤ p.high

section

variable {p : Partial} {b : UInt8} {rest : List UInt8}

theorem scan_last (allowed : p.Allows b) (last : p.missing = 1) :
    scan (some p) (b :: rest) =
      .char (Char.ofNat (p.bits * 64 + (b.toNat - 0x80))) :: scan none rest := by
  have range : p.low ≤ b ∧ b ≤ p.high := allowed
  simp [scan, step, range, last]

theorem scan_next (allowed : p.Allows b) (more : 1 < p.missing) :
    scan (some p) (b :: rest) =
      scan (some ⟨p.taken ++ [b], p.missing - 1, 0x80, 0xbf, p.bits * 64 + (b.toNat - 0x80)⟩)
        rest := by
  have range : p.low ≤ b ∧ b ≤ p.high := allowed
  have notLast : ¬p.missing ≤ 1 := Nat.not_le.mpr more
  simp [scan, step, range, notLast]

theorem scan_lead (promised : lead? b = some p) : scan none (b :: rest) = scan (some p) rest := by
  have large : ¬b < 0x80 := by
    intro small
    have number : b.toNat < 0x80 := UInt8.lt_iff_toNat_lt.mp small
    have noLead : lead? b = none := if_pos (by omega)
    rw [noLead] at promised
    contradiction
  simp [scan, step, start, large, promised]

end

theorem toNat_byte {n : Nat} (small : n < 256) : (UInt8.ofNat n).toNat = n := by
  rw [UInt8.toNat_ofNat']
  exact Nat.mod_eq_of_lt small

/-- Between these bounds is every byte that is not the first one of a character. -/
theorem allows_byte {taken : List UInt8} {missing bits : Nat} {low high : UInt8} {n : Nat}
    (above : low.toNat ≤ n) (below : n ≤ high.toNat) :
    (⟨taken, missing, low, high, bits⟩ : Partial).Allows (UInt8.ofNat n) := by
  have number : (UInt8.ofNat n).toNat = n := toNat_byte (by have := high.toNat_lt; omega)
  constructor
  · rw [UInt8.le_iff_toNat_le, number]
    exact above
  · rw [UInt8.le_iff_toNat_le, number]
    exact below

theorem lead?_two {n : Nat} (above : 0xc2 ≤ n) (below : n < 0xe0) :
    lead? (UInt8.ofNat n) = some ⟨[UInt8.ofNat n], 1, 0x80, 0xbf, n - 0xc0⟩ := by
  have number : (UInt8.ofNat n).toNat = n := toNat_byte (by omega)
  simp only [lead?, number]
  rw [if_neg (by omega), if_pos below]

/-- The bounds on the second byte of three leave out what two bytes can say, and surrogates. -/
theorem lead?_three (n second : Nat) (above : 0xe0 ≤ n) (below : n < 0xf0)
    (least : 0x80 ≤ second) (greatest : second ≤ 0xbf)
    (long : n = 0xe0 → 0xa0 ≤ second) (proper : n = 0xed → second ≤ 0x9f) :
    ∃ p, lead? (UInt8.ofNat n) = some p ∧ p.missing = 2 ∧ p.bits = n - 0xe0 ∧
      p.Allows (UInt8.ofNat second) := by
  have number : (UInt8.ofNat n).toNat = n := toNat_byte (by omega)
  simp only [lead?, number]
  rw [if_neg (by omega), if_neg (by omega)]
  by_cases first : n = 0xe0
  · rw [if_pos first]
    exact ⟨_, rfl, rfl, by dsimp only; omega, allows_byte (long first) greatest⟩
  · rw [if_neg first]
    by_cases surrogates : n = 0xed
    · rw [if_pos surrogates]
      exact ⟨_, rfl, rfl, by dsimp only; omega, allows_byte least (proper surrogates)⟩
    · rw [if_neg surrogates, if_pos below]
      exact ⟨_, rfl, rfl, rfl, allows_byte least greatest⟩

/-- The bounds on the second byte of four leave out what three bytes can say, and what is beyond
the last character. -/
theorem lead?_four (n second : Nat) (above : 0xf0 ≤ n) (below : n ≤ 0xf4)
    (least : 0x80 ≤ second) (greatest : second ≤ 0xbf)
    (long : n = 0xf0 → 0x90 ≤ second) (proper : n = 0xf4 → second ≤ 0x8f) :
    ∃ p, lead? (UInt8.ofNat n) = some p ∧ p.missing = 3 ∧ p.bits = n - 0xf0 ∧
      p.Allows (UInt8.ofNat second) := by
  have number : (UInt8.ofNat n).toNat = n := toNat_byte (by omega)
  simp only [lead?, number]
  rw [if_neg (by omega), if_neg (by omega), if_neg (by omega), if_neg (by omega), if_neg (by omega)]
  by_cases first : n = 0xf0
  · rw [if_pos first]
    exact ⟨_, rfl, rfl, by dsimp only; omega, allows_byte (long first) greatest⟩
  · rw [if_neg first]
    by_cases inner : n < 0xf4
    · rw [if_pos inner]
      exact ⟨_, rfl, rfl, rfl, allows_byte least greatest⟩
    · rw [if_neg inner, if_pos (by omega)]
      exact ⟨_, rfl, rfl, by dsimp only; omega, allows_byte least (proper (by omega))⟩

/-- A character is read back from its bytes. -/
theorem scan_encodeChar (c : Char) (rest : List UInt8) :
    scan none (String.utf8EncodeChar c ++ rest) = .char c :: scan none rest := by
  have valid : c.toNat < 0xd800 ∨ 0xdfff < c.toNat ∧ c.toNat < 0x110000 := c.valid
  have back {n : Nat} (code : n = c.toNat) : Char.ofNat n = c := by rw [code, Char.ofNat_toNat]
  have shape := String.utf8EncodeChar.eq_1 c
  rw [show c.val.toNat = c.toNat from rfl] at shape
  generalize c.toNat = v at valid back shape
  rw [shape]
  -- One case for each length. The second byte keeps the narrower bounds behind some first bytes
  -- because a shorter form would have been used, and because a character is no surrogate.
  split
  · have number : (UInt8.ofNat v).toNat = v := toNat_byte (by omega)
    have small : UInt8.ofNat v < 0x80 := by
      rw [UInt8.lt_iff_toNat_lt, number]
      exact Nat.lt_succ_of_le ‹_›
    simp only [List.singleton_append, scan, step, start, if_pos small, number, back rfl]
  · split
    · have lead := lead?_two (n := v / 64 % 32 + 192) (by omega) (by omega)
      have last : (UInt8.ofNat (v % 64 + 128)).toNat = v % 64 + 128 := toNat_byte (by omega)
      rw [List.cons_append, List.cons_append, scan_lead lead,
        scan_last (allows_byte (by simp) (by simp; omega)) rfl, last, back (by dsimp only; omega)]
      rfl
    · split
      · obtain ⟨p, lead, missing, bits, second⟩ :=
          lead?_three (v / 4096 % 16 + 224) (v / 64 % 64 + 128) (by omega) (by omega)
            (by omega) (by omega) (by omega) (by omega)
        have middle : (UInt8.ofNat (v / 64 % 64 + 128)).toNat = v / 64 % 64 + 128 :=
          toNat_byte (by omega)
        have last : (UInt8.ofNat (v % 64 + 128)).toNat = v % 64 + 128 := toNat_byte (by omega)
        rw [List.cons_append, List.cons_append, List.cons_append, scan_lead lead,
          scan_next second (by omega),
          scan_last (allows_byte (by simp) (by simp; omega)) (by simp [missing]), last, middle, bits,
          back (by dsimp only; omega)]
        rfl
      · obtain ⟨p, lead, missing, bits, second⟩ :=
          lead?_four (v / 262144 % 8 + 240) (v / 4096 % 64 + 128) (by omega)
            (by omega) (by omega) (by omega) (by omega) (by omega)
        have number {n : Nat} (below : n < 64) : (UInt8.ofNat (n + 128)).toNat = n + 128 :=
          toNat_byte (by omega)
        rw [List.cons_append, List.cons_append, List.cons_append, List.cons_append, scan_lead lead,
          scan_next second (by omega),
          scan_next (allows_byte (by simp) (by simp; omega)) (by simp [missing]),
          scan_last (allows_byte (by simp) (by simp; omega)) (by simp [missing]),
          number (by omega), number (by omega), number (by omega), bits,
          back (by dsimp only; omega)]
        rfl

theorem pieces_encode_append (s : List Char) (rest : List UInt8) :
    pieces (encode s ++ rest) = s.map .char ++ pieces rest := by
  induction s with
  | nil => rfl
  | cons c s ih =>
    have first : encode (c :: s) ++ rest = String.utf8EncodeChar c ++ (encode s ++ rest) := by
      simp [encode]
    rw [first, pieces, scan_encodeChar]
    exact congrArg _ ih

/-- A text is read back from its bytes. -/
@[simp] theorem decode?_encode (s : List Char) : decode? (encode s) = some s := by
  have read : pieces (encode s) = s.map .char := by
    simpa using pieces_encode_append s []
  have whole : (s.map Piece.char).mapM Piece.char? = some s := by
    rw [List.mapM_map]
    exact (List.mapM_pure (f := id)).trans (congrArg some s.map_id)
  rw [decode?, read, whole]

/-- What follows the bytes of a text does not change how they are read. -/
theorem decodeLossy_encode_append (s : List Char) (rest : List UInt8) :
    decodeLossy (encode s ++ rest) = s ++ decodeLossy rest := by
  have chars : (s.map Piece.char).map Piece.orReplacement = s := by
    rw [List.map_map]
    exact s.map_id
  rw [decodeLossy, pieces_encode_append, List.map_append, chars]
  rfl

section Strict

theorem eq_byte {b : UInt8} {n : Nat} (code : n = b.toNat) : UInt8.ofNat n = b := by
  rw [code, UInt8.ofNat_toNat]

/-- The bytes of the character of a number. -/
theorem encodeChar_ofNat {n : Nat} (valid : n.isValidChar) :
    String.utf8EncodeChar (Char.ofNat n) =
      if n ≤ 127 then [UInt8.ofNat n]
      else if n ≤ 2047 then [UInt8.ofNat (n / 64 % 32 + 192), UInt8.ofNat (n % 64 + 128)]
      else if n ≤ 65535 then [UInt8.ofNat (n / 4096 % 16 + 224), UInt8.ofNat (n / 64 % 64 + 128),
        UInt8.ofNat (n % 64 + 128)]
      else [UInt8.ofNat (n / 262144 % 8 + 240), UInt8.ofNat (n / 4096 % 64 + 128),
        UInt8.ofNat (n / 64 % 64 + 128), UInt8.ofNat (n % 64 + 128)] := by
  have number : (Char.ofNat n).val.toNat = n := by
    rw [Char.ofNat, dif_pos valid]
    rfl
  rw [String.utf8EncodeChar.eq_1, number]

/-- All bytes that keep a promise, one after the other, complete the bytes of a character. -/
inductive Partial.Leads : Partial → Prop
  | last {p : Partial} : p.missing = 1 →
      (∀ b, p.Allows b →
        String.utf8EncodeChar (Char.ofNat (p.bits * 64 + (b.toNat - 0x80))) = p.taken ++ [b]) →
      p.Leads
  | next {p : Partial} : 1 < p.missing →
      (∀ b, p.Allows b → Partial.Leads
        ⟨p.taken ++ [b], p.missing - 1, 0x80, 0xbf, p.bits * 64 + (b.toNat - 0x80)⟩) →
      p.Leads

theorem Partial.Allows.range {p : Partial} {b : UInt8} (allowed : p.Allows b) :
    p.low.toNat ≤ b.toNat ∧ b.toNat ≤ p.high.toNat :=
  ⟨UInt8.le_iff_toNat_le.mp allowed.1, UInt8.le_iff_toNat_le.mp allowed.2⟩

section

variable {a low high : UInt8} {bits : Nat}

theorem leads_two (above : 0xc2 ≤ a.toNat) (below : a.toNat < 0xe0)
    (number : bits = a.toNat - 0xc0) :
    (⟨[a], 1, 0x80, 0xbf, bits⟩ : Partial).Leads := by
  refine .last rfl fun b second => ?_
  have two : 0x80 ≤ b.toNat ∧ b.toNat ≤ 0xbf := second.range
  dsimp only
  rw [encodeChar_ofNat (by unfold Nat.isValidChar; omega), if_neg (by omega), if_pos (by omega),
    eq_byte (b := a) (by omega), eq_byte (b := b) (by omega)]
  rfl

theorem leads_three (above : 0xe0 ≤ a.toNat) (below : a.toNat < 0xf0)
    (number : bits = a.toNat - 0xe0)
    (least : 0x80 ≤ low.toNat) (greatest : high.toNat ≤ 0xbf)
    (long : a.toNat = 0xe0 → 0xa0 ≤ low.toNat) (proper : a.toNat = 0xed → high.toNat ≤ 0x9f) :
    (⟨[a], 2, low, high, bits⟩ : Partial).Leads := by
  refine .next Nat.one_lt_two fun b second => .last rfl fun c third => ?_
  have two : low.toNat ≤ b.toNat ∧ b.toNat ≤ high.toNat := second.range
  have three : 0x80 ≤ c.toNat ∧ c.toNat ≤ 0xbf := third.range
  dsimp only
  rw [encodeChar_ofNat (by unfold Nat.isValidChar; omega), if_neg (by omega), if_neg (by omega),
    if_pos (by omega), eq_byte (b := a) (by omega), eq_byte (b := b) (by omega),
    eq_byte (b := c) (by omega)]
  rfl

theorem leads_four (above : 0xf0 ≤ a.toNat) (below : a.toNat ≤ 0xf4)
    (number : bits = a.toNat - 0xf0)
    (least : 0x80 ≤ low.toNat) (greatest : high.toNat ≤ 0xbf)
    (long : a.toNat = 0xf0 → 0x90 ≤ low.toNat) (proper : a.toNat = 0xf4 → high.toNat ≤ 0x8f) :
    (⟨[a], 3, low, high, bits⟩ : Partial).Leads := by
  refine .next (Nat.succ_lt_succ Nat.two_pos) fun b second => .next Nat.one_lt_two fun c third =>
    .last rfl fun d fourth => ?_
  have two : low.toNat ≤ b.toNat ∧ b.toNat ≤ high.toNat := second.range
  have three : 0x80 ≤ c.toNat ∧ c.toNat ≤ 0xbf := third.range
  have four : 0x80 ≤ d.toNat ∧ d.toNat ≤ 0xbf := fourth.range
  dsimp only
  rw [encodeChar_ofNat (by unfold Nat.isValidChar; omega), if_neg (by omega), if_neg (by omega),
    if_neg (by omega), eq_byte (b := a) (by omega), eq_byte (b := b) (by omega),
    eq_byte (b := c) (by omega), eq_byte (b := d) (by omega)]
  rfl

theorem leads_of_lead? {p : Partial} (promised : lead? a = some p) : p.Leads := by
  unfold lead? at promised
  have above : 0xc2 ≤ a.toNat := by
    by_contra small
    rw [if_pos (by omega)] at promised
    contradiction
  rw [if_neg (by omega)] at promised
  split at promised
  · cases promised
    exact leads_two above ‹_› rfl
  split at promised
  · cases promised
    exact leads_three (by omega) (by omega) (by omega) (by decide) (by decide) (by simp) (by omega)
  split at promised
  · cases promised
    exact leads_three (by omega) (by omega) (by omega) (by decide) (by decide) (by omega) (by simp)
  split at promised
  · cases promised
    exact leads_three (by omega) (by omega) rfl (by decide) (by decide) (by omega) (by omega)
  split at promised
  · cases promised
    exact leads_four (by omega) (by omega) (by omega) (by decide) (by decide) (by simp) (by omega)
  split at promised
  · cases promised
    exact leads_four (by omega) (by omega) rfl (by decide) (by decide) (by omega) (by omega)
  split at promised
  · cases promised
    exact leads_four (by omega) (by omega) (by omega) (by decide) (by decide) (by omega) (by simp)
  · contradiction


theorem taken_of_lead? {p : Partial} (promised : lead? a = some p) : p.taken = [a] := by
  unfold lead? at promised
  dsimp only at promised
  repeat' split at promised
  all_goals cases promised
  all_goals rfl

end

theorem map_char_of_mapM {ps : List Piece} {s : List Char} (whole : ps.mapM Piece.char? = some s) :
    ps = s.map .char := by
  induction ps generalizing s with
  | nil =>
    cases whole
    rfl
  | cons piece ps ih =>
    simp only [List.mapM_cons, bind, Option.bind_eq_some_iff, pure, Option.some.injEq] at whole
    obtain ⟨c, first, s, rest, rfl⟩ := whole
    rw [List.map_cons, ← ih rest]
    cases piece with
    | char c => cases first; rfl
    | broken bytes => contradiction

/-- The bytes that were read of a character that is not complete. -/
def begun : Option Partial → List UInt8
  | none => []
  | some p => p.taken

/-- A byte that breaks nothing off goes on with a character, or ends it. -/
theorem step_whole {state : Option Partial} {b : UInt8} (leads : ∀ p ∈ state, p.Leads)
    (whole : ∀ bytes, .broken bytes ∉ (step b state).1) :
    (∀ p ∈ (step b state).2, p.Leads) ∧ ∃ cs, (step b state).1 = cs.map .char ∧
      encode cs ++ begun (step b state).2 = begun state ++ [b] := by
  cases state with
  | none =>
    by_cases small : b < 0x80
    · have ascii : b.toNat < 0x80 := UInt8.lt_iff_toNat_lt.mp small
      have bytes : String.utf8EncodeChar (Char.ofNat b.toNat) = [b] := by
        rw [encodeChar_ofNat (by unfold Nat.isValidChar; omega), if_pos (by omega), eq_byte rfl]
      simp only [step, start, if_pos small]
      exact ⟨by simp, [Char.ofNat b.toNat], rfl, by simp [encode, begun, bytes]⟩
    · cases promised : lead? b with
      | none =>
        have broken := whole [b]
        simp [step, start, small, promised] at broken
      | some p =>
        simp only [step, start, if_neg small, promised]
        refine ⟨by simpa using leads_of_lead? promised, [], rfl, ?_⟩
        simp [encode, begun, taken_of_lead? promised]
  | some p =>
    -- A byte that does not go on with the character would leave a broken piece.
    by_cases allowed : p.low ≤ b ∧ b ≤ p.high
    · cases leads p rfl with
      | last one complete =>
        simp only [step, if_pos allowed, if_pos (Nat.le_of_eq one)]
        refine ⟨by simp, [Char.ofNat (p.bits * 64 + (b.toNat - 0x80))], rfl, ?_⟩
        simpa [encode, begun] using complete b allowed
      | next more goesOn =>
        simp only [step, if_pos allowed, if_neg (Nat.not_le.mpr more)]
        refine ⟨?_, [], rfl, by simp [encode, begun]⟩
        simpa using goesOn b allowed
    · have broken := whole p.taken
      simp [step, allowed] at broken

theorem scan_cons (state : Option Partial) (b : UInt8) (bytes : List UInt8) :
    scan state (b :: bytes) = (step b state).1 ++ scan (step b state).2 bytes := by
  cases state <;> rfl

/-- What is read without a broken piece was written by what was read. -/
theorem encode_of_scan {state : Option Partial} {bytes : List UInt8} {s : List Char}
    (leads : ∀ p ∈ state, p.Leads) (whole : scan state bytes = s.map .char) :
    encode s = begun state ++ bytes := by
  induction bytes generalizing state s with
  | nil =>
    cases state with
    | none =>
      have empty := List.map_eq_nil_iff.mp whole.symm
      subst empty
      rfl
    | some p => cases s <;> simp [scan] at whole
  | cons b bytes ih =>
    have unbroken : ∀ broken, .broken broken ∉ (step b state).1 := by
      intro broken member
      have among : Piece.broken broken ∈ s.map .char := by
        rw [← whole, scan_cons]
        exact List.mem_append_left _ member
      simp at among
    -- The byte gives the first characters of the text, and the others are read from the rest.
    obtain ⟨further, cs, first, read⟩ := step_whole leads unbroken
    rw [scan_cons, first] at whole
    obtain ⟨front, back, rfl, written, rest⟩ := List.map_eq_append_iff.mp whole.symm
    have chars : front = cs := List.map_injective_iff.mpr (fun _ _ => Piece.char.inj) written
    have later := ih further rest.symm
    calc encode (front ++ back) = encode cs ++ encode back := by
          rw [chars, encode, List.flatMap_append]
          rfl
      _ = encode cs ++ begun (step b state).2 ++ bytes := by rw [later, List.append_assoc]
      _ = begun state ++ b :: bytes := by rw [read, List.append_assoc, List.singleton_append]

/-- Bytes are read as a text exactly if they are the bytes of the text. -/
theorem decode?_eq_some_iff {bytes : List UInt8} {s : List Char} :
    decode? bytes = some s ↔ bytes = encode s := by
  constructor
  · intro read
    exact (encode_of_scan (by simp) (map_char_of_mapM read)).symm
  · rintro rfl
    exact decode?_encode s

end Strict

end Multipath.Text.Utf8
