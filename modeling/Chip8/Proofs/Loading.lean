/-
Loading a program.

A program of at most 3583 bytes is put into memory that is zero everywhere else, and a
longer one is refused.  Once it is loaded nothing tells how long it was: zeros at its end
are the same as the zeros behind it.

* `trimmed` — a program without the zeros at its end;
* `trimmed_eq_iff` — two programs are the same without them exactly if they have the same
  byte at every place, where bytes behind the end count as zero;
* `Memory.image_eq_iff` — and exactly if they make the same memory;
* `State.Initial` — the state in which a program starts, part by part;
* `Machine.zeros_at_the_end_do_not_matter` — which programs are loaded, into what, and which
  of them cannot be told apart.

Design notes: two programs that differ in zeros at the end are reported with different sizes
when they are loaded.  That is the only difference, and the journal is where it is seen.
-/
import Chip8.Proofs.Confinement
import Chip8.Proofs.Observation
import Chip8.Proofs.Report
import Mathlib.Data.List.DropRight

namespace Chip8

/-- A program without the zeros at its end. -/
def trimmed (rom : Array Byte) : List Byte :=
  rom.toList.rdropWhile (· = 0)

/-! ### Zeros at the end -/

section Zeros

variable {l l' : List Byte}

theorem getD_rdropWhile (l : List Byte) (i : Nat) :
    (l.rdropWhile (· = 0))[i]?.getD 0 = l[i]?.getD 0 := by
  have htail (j : Nat) : (l.rtakeWhile (· = 0))[j]?.getD 0 = 0 := by
    cases hj : (l.rtakeWhile (· = 0))[j]? with
    | none => rfl
    | some b =>
      have hzero := List.mem_rtakeWhile_imp (List.mem_of_getElem? hj)
      exact of_decide_eq_true hzero
  have hsplit : l[i]? = (l.rdropWhile (· = 0) ++ l.rtakeWhile (· = 0))[i]? := by
    rw [List.rdropWhile_append_rtakeWhile]
  rcases Nat.lt_or_ge i (l.rdropWhile (· = 0)).length with hi | hi
  · rw [hsplit, List.getElem?_append_left hi]
  · rw [hsplit, List.getElem?_append_right hi, htail, List.getElem?_eq_none hi, Option.getD_none]

/-- Of two lists with the same bytes, counting zeros behind the end, one that does not end
with zero is not the longer one. -/
theorem length_le_of_getD_eq (hlast : ∀ h : l ≠ [], l.getLast h ≠ 0)
    (h : ∀ i : Nat, l[i]?.getD 0 = l'[i]?.getD 0) : l.length ≤ l'.length := by
  by_contra hlt
  have hne : l ≠ [] := by
    rintro rfl
    exact hlt (Nat.zero_le _)
  apply hlast hne
  have hbyte := h (l.length - 1)
  rw [← List.getLast?_eq_getElem?, List.getLast?_eq_getLast_of_ne_nil hne,
    List.getElem?_eq_none (by omega)] at hbyte
  exact hbyte

theorem eq_of_getD_eq (hlast : ∀ h : l ≠ [], l.getLast h ≠ 0)
    (hlast' : ∀ h : l' ≠ [], l'.getLast h ≠ 0) (h : ∀ i : Nat, l[i]?.getD 0 = l'[i]?.getD 0) :
    l = l' := by
  have hlength : l.length = l'.length :=
    le_antisymm (length_le_of_getD_eq hlast h) (length_le_of_getD_eq hlast' fun i => (h i).symm)
  apply List.ext_getElem hlength
  intro i hi hi'
  have hbyte := h i
  rw [List.getElem?_eq_getElem hi, List.getElem?_eq_getElem hi'] at hbyte
  exact hbyte

end Zeros

theorem trimmed_eq_iff {a b : Array Byte} :
    trimmed a = trimmed b ↔ ∀ i : Nat, a[i]?.getD 0 = b[i]?.getD 0 := by
  have hbyte (rom : Array Byte) (i : Nat) : (trimmed rom)[i]?.getD 0 = rom[i]?.getD 0 := by
    rw [trimmed, getD_rdropWhile, Array.getElem?_toList]
  have hlast (rom : Array Byte) (h : trimmed rom ≠ []) : (trimmed rom).getLast h ≠ 0 := by
    have hnot := List.rdropWhile_last_not _ _ h
    exact of_decide_eq_false (Bool.not_eq_true _ ▸ hnot)
  constructor
  · intro h i
    rw [← hbyte a, h, hbyte b]
  · intro h
    apply eq_of_getD_eq (hlast a) (hlast b)
    intro i
    rw [hbyte a, hbyte b, h]

/-! ### Memory and state -/

theorem Memory.image_eq_iff {a b : Array Byte} (ha : programStart + a.size ≤ memorySize)
    (hb : programStart + b.size ≤ memorySize) : image a = image b ↔ trimmed a = trimmed b := by
  rw [trimmed_eq_iff]
  constructor
  · intro h i
    have hbyte : (image a).byteAt (programStart + i) = (image b).byteAt (programStart + i) := by
      rw [h]
    rw [byteAt_image ha, byteAt_image hb, if_pos (Nat.le_add_right _ _),
      if_pos (Nat.le_add_right _ _), Nat.add_sub_cancel_left] at hbyte
    exact hbyte
  · intro h
    simp only [image, h]

/-- The state in which a program starts. -/
structure State.Initial (rom : Array Byte) (s : State) : Prop where
  size : s.memory.toList.length = 4095
  /-- Memory holds the bytes of the program. -/
  program : ∀ (i : Nat) (hi : i < rom.size), s.memory.byteAt (0x200 + i) = rom[i]
  /-- All other bytes of memory are zero. -/
  zeros : ∀ a, ¬ (0x200 ≤ a ∧ a < 0x200 + rom.size) → s.memory.byteAt a = 0
  registers : ∀ x, s.register x = 0
  index : s.index = 0
  display : ∀ x y, s.display.get x y = false
  fault : s.fault = 0
  pc : s.pc.toNat = 0x200

theorem State.initial_image {rom : Array Byte} (h : programStart + rom.size ≤ memorySize) :
    Initial rom { memory := Memory.image rom } where
  size := Vector.length_toList
  program i hi := by
    show (Memory.image rom).byteAt (0x200 + i) = rom[i]
    rw [Memory.byteAt_image h, if_pos (Nat.le_add_right _ _), Nat.add_sub_cancel_left,
      Array.getElem?_eq_getElem hi, Option.getD_some]
  zeros a ha := Memory.byteAt_image_of_outside h ha
  registers x := by simp [register]
  index := rfl
  display := Display.get_blank
  fault := rfl
  pc := rfl

namespace Machine

/-- **Zeros at the end of a program do not matter.**  Exactly the programs of at most 3583
bytes are loaded; a longer one is refused with the address of its last byte, and a machine
reports that before it gives up.  A program is loaded into the initial state, and two of them
into the same one exactly if they are the same without the zeros at their ends.  Machines of
two such programs, however they report, are in the same state from the start, and after every
request, and give the same answers. -/
theorem zeros_at_the_end_do_not_matter (a : Array Byte) :
    ((∃ s, State.load? a = .ok s) ↔ a.size ≤ 3583)
      ∧ (3583 < a.size →
        let f := Fault.outOfRange (0x200 + a.size - 1) none
        State.load? a = .error f
          ∧ ∀ config journal, load a config journal
            = .error (f, journal.report .error (f.name ++ ": " ++ f.message)))
      ∧ (∀ s, State.load? a = .ok s → s.Initial a)
      ∧ ∀ b s t, State.load? a = .ok s → State.load? b = .ok t →
        (s = t ↔ trimmed a = trimmed b)
        ∧ (trimmed a = trimmed b → ∀ config config' journal journal',
          ∃ m k, load a config journal = .ok m ∧ load b config' journal' = .ok k
            ∧ m.state = k.state ∧ m.steps = k.steps
            ∧ ∀ requests, m.history requests = k.history requests) := by
  have hsize (rom : Array Byte) :
      rom.size ≤ 3583 ↔ programStart + rom.size ≤ memorySize := by
    unfold programStart memorySize
    omega
  refine ⟨?_, fun hlong => ?_, fun s hs => ?_, fun b s t hs ht => ?_⟩
  · simp only [State.load?_eq_ok_iff, exists_and_left, exists_eq, and_true]
  · have hlt : memorySize < programStart + a.size :=
      Nat.not_le.1 fun hle => absurd ((hsize a).2 hle) (Nat.not_le.2 hlong)
    exact ⟨State.load?_of_lt hlt, load_of_lt hlt⟩
  · obtain ⟨hle, rfl⟩ := State.load?_eq_ok_iff.1 hs
    exact State.initial_image ((hsize a).1 hle)
  · obtain ⟨hle, rfl⟩ := State.load?_eq_ok_iff.1 hs
    obtain ⟨hle', rfl⟩ := State.load?_eq_ok_iff.1 ht
    rw [hsize] at hle hle'
    have himage := Memory.image_eq_iff hle hle'
    refine ⟨?_, fun htrimmed config config' journal journal' => ?_⟩
    · -- nothing but memory depends on the program
      rw [← himage]
      exact ⟨congrArg State.memory, fun h => by rw [h]⟩
    · have htwin : (loaded a config journal).Twin (loaded b config' journal') := by
        refine ⟨?_, rfl⟩
        show ({ memory := Memory.image a } : State) = { memory := Memory.image b }
        rw [himage.2 htrimmed]
      exact ⟨_, _, load_eq_ok_iff.2 ⟨hle, rfl⟩, load_eq_ok_iff.2 ⟨hle', rfl⟩, htwin.state,
        htwin.steps, htwin.history⟩

/-- A jump to the start of a program, with and without its last byte, which is zero; and a
program that is one byte too long. -/
theorem zeros_at_the_end_do_not_matter_selfJump :
    let short : Array Byte := #[0x12]
    let long : Array Byte := Array.replicate 3584 0xFF
    3583 < long.size
      ∧ State.load? long = .error (.outOfRange 0xFFF none)
      ∧ (∃ s, State.load? selfJump = .ok s ∧ State.load? short = .ok s ∧ s.Initial short)
      ∧ trimmed selfJump = trimmed short
      ∧ ∃ m k, load selfJump .traced plainJournal = .ok m ∧ load short {} plainJournal = .ok k
        ∧ m.history [.call .step, .render] = k.history [.call .step, .render] := by
  intro short long
  have hlong : long.size = 3584 := Array.size_replicate
  have hlt : 3583 < long.size := by
    rw [hlong]
    decide
  have htrimmed : trimmed selfJump = trimmed short := by decide
  obtain ⟨-, hrefused, -, -⟩ := zeros_at_the_end_do_not_matter long
  have hfault := (hrefused hlt).1
  rw [hlong] at hfault
  obtain ⟨s, hs⟩ := (zeros_at_the_end_do_not_matter selfJump).1.2 (by decide)
  obtain ⟨t, ht⟩ := (zeros_at_the_end_do_not_matter short).1.2 (by decide)
  obtain ⟨-, -, -, hpair⟩ := zeros_at_the_end_do_not_matter selfJump
  obtain ⟨hiff, hmachines⟩ := hpair short s t hs ht
  obtain rfl := hiff.2 htrimmed
  obtain ⟨-, -, hinitial, -⟩ := zeros_at_the_end_do_not_matter short
  obtain ⟨m, k, hm, hk, -, -, hhistory⟩ := hmachines htrimmed .traced {} plainJournal plainJournal
  exact ⟨hlt, hfault, ⟨s, hs, ht, hinitial s ht⟩, htrimmed, m, k, hm, hk, hhistory _⟩

end Machine

end Chip8
