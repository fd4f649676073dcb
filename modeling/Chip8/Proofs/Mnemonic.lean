/-
Mnemonics say what their words do.

A mnemonic names an instruction and its operands.  Read back as text, it tells which part
of a state changes and to what, and carrying its word out does just that:

* `Text.readDigits?`, `Text.readDigits?_hex` — digits of a base, and reading a number that
  was written in hexadecimal;
* `Instruction.ofMnemonic?`, `Instruction.ofMnemonic?_mnemonic` — the reader of mnemonics,
  and what it makes of those that are written;
* `Instruction.Announces`, `State.announces_exec` — what an instruction announces, in
  numbers, and that it is what happens;
* `Instruction.isPrefix_data_iff` — the mnemonics of data;
* `State.mnemonic_predicts_execute` — the words shown as data are those that record a
  fault for it, and the mnemonics of all others announce what they do.

Design notes: the operands are read from the text alone.  A draw is announced as two loops
over rows and bits, and everything that is not announced stays as it is.
-/
import Chip8.Proofs.Redraw
import Chip8.Proofs.Reference
import Chip8.Proofs.Transcript

namespace Chip8

/-! ### Digits -/

namespace Text

/-- The digits of a base, with capital letters from ten on. -/
def digitsOf (base : Nat) : List Char :=
  (List.range base).map hexDigit

/-- The number below a bound that some digits of a base stand for. -/
def readDigits? (base bound : Nat) (ds : List Char) : Option (Fin bound) :=
  let value := ds.foldl (fun n c => base * n + hexDigitValue c) 0
  if h : value < bound then
    if ds.all (digitsOf base).contains then some ⟨value, h⟩ else none
  else none

theorem toList_hex (width n : Nat) :
    (hex width n).toList
      = List.replicate (width - (hexDigits n).length) '0' ++ hexDigits n := by
  have hsign : ¬ (n : Int) < 0 := by omega
  rw [hex, if_neg hsign, String.toList_ofList]
  rfl

theorem length_toList_hex {width n : Nat} (hwidth : 0 < width) (h : n < Nat.pow 16 width) :
    (hex width n).toList.length = width := by
  have hle := length_hexDigits_le hwidth h
  rw [toList_hex, List.length_append, List.length_replicate]
  omega

theorem ofHexDigits_toList_hex (width n : Nat) : ofHexDigits (hex width n).toList = n := by
  have hzeros (k : Nat) : (List.replicate k '0').foldl (fun n c => 16 * n + hexDigitValue c) 0 = 0 := by
    induction k with
    | zero => rfl
    | succ k ih =>
      rw [List.replicate_succ, List.foldl_cons]
      exact ih
  rw [toList_hex, ofHexDigits, List.foldl_append, hzeros]
  exact ofHexDigits_hexDigits n

theorem mem_digitsOf_of_mem_hex {width n : Nat} {c : Char} (h : c ∈ (hex width n).toList) :
    c ∈ digitsOf 16 := by
  rw [toList_hex, List.mem_append] at h
  rcases h with h | h
  · rw [List.eq_of_mem_replicate h]
    decide
  · obtain ⟨d, hd, rfl⟩ := exists_of_mem_hexDigits h
    exact List.mem_map_of_mem (List.mem_range.2 hd)

theorem readDigits?_hex {bound : Nat} (width : Nat) (v : Fin bound) :
    readDigits? 16 bound (hex width v.val).toList = some v := by
  have hvalue : (hex width v.val).toList.foldl (fun n c => 16 * n + hexDigitValue c) 0 = v.val :=
    ofHexDigits_toList_hex width v.val
  have hlt : (hex width v.val).toList.foldl (fun n c => 16 * n + hexDigitValue c) 0 < bound :=
    hvalue.trans_lt v.isLt
  have hdigits : (hex width v.val).toList.all (digitsOf 16).contains = true :=
    List.all_eq_true.2 fun c hc => List.contains_iff_mem.2 (mem_digitsOf_of_mem_hex hc)
  rw [readDigits?, dif_pos hlt, if_pos hdigits]
  exact congrArg some (Fin.ext hvalue)

/-! ### Operands -/

theorem exists_hex_one (v : Fin 16) :
    ∃ a, (hex 1 v.val).toList = [a] ∧ readDigits? 16 16 [a] = some v := by
  obtain ⟨a, htext⟩ := List.length_eq_one_iff.1 (length_toList_hex (by decide) v.isLt)
  exact ⟨a, htext, htext ▸ readDigits?_hex 1 v⟩

theorem exists_hex_two (v : Fin 256) :
    ∃ a b, (hex 2 v.val).toList = [a, b] ∧ readDigits? 16 256 [a, b] = some v := by
  obtain ⟨a, b, htext⟩ := List.length_eq_two.1 (length_toList_hex (by decide) v.isLt)
  exact ⟨a, b, htext, htext ▸ readDigits?_hex 2 v⟩

theorem exists_hex_three (v : Fin 4096) :
    ∃ a b c, (hex 3 v.val).toList = [a, b, c] ∧ readDigits? 16 4096 [a, b, c] = some v := by
  obtain ⟨a, b, c, htext⟩ := List.length_eq_three.1 (length_toList_hex (by decide) v.isLt)
  exact ⟨a, b, c, htext, htext ▸ readDigits?_hex 3 v⟩

/-- The height of a sprite is the only operand written in decimal. -/
theorem exists_repr (v : Fin 16) :
    ∃ d ds, (Nat.repr v.val).toList = d :: ds ∧ readDigits? 10 16 (d :: ds) = some v := by
  have key : ∀ v : Fin 16, (Nat.repr v.val).toList ≠ []
      ∧ readDigits? 10 16 (Nat.repr v.val).toList = some v := by decide
  obtain ⟨hne, hread⟩ := key v
  obtain ⟨d, ds, htext⟩ := List.exists_cons_of_ne_nil hne
  exact ⟨d, ds, htext, htext ▸ hread⟩

end Text

/-! ### The reader -/

namespace Instruction

/-- The instruction that a mnemonic names. -/
def ofMnemonic? : List Char → Option Instruction
  | ['C', 'L', 'S'] => some .clear
  | ['J', 'P', ' ', '0', 'x', a, b, c] => do
    return .jump (← Text.readDigits? 16 4096 [a, b, c])
  | ['L', 'D', ' ', 'V', x, ',', ' ', '0', 'x', a, b] => do
    return .set (← Text.readDigits? 16 16 [x]) (← Text.readDigits? 16 256 [a, b])
  | ['A', 'D', 'D', ' ', 'V', x, ',', ' ', '0', 'x', a, b] => do
    return .add (← Text.readDigits? 16 16 [x]) (← Text.readDigits? 16 256 [a, b])
  | ['L', 'D', ' ', 'I', ',', ' ', '0', 'x', a, b, c] => do
    return .setIndex (← Text.readDigits? 16 4096 [a, b, c])
  | 'D' :: 'R' :: 'W' :: ' ' :: 'V' :: x :: ',' :: ' ' :: 'V' :: y :: ',' :: ' ' :: d :: ds => do
    return .draw (← Text.readDigits? 16 16 [x]) (← Text.readDigits? 16 16 [y])
      (← Text.readDigits? 10 16 (d :: ds))
  | _ => none

/-- A mnemonic is read as the instruction that it was written for. -/
theorem ofMnemonic?_mnemonic (word : Nat) {i : Instruction} (h : i ≠ .unknown) :
    ofMnemonic? (i.mnemonic word).toList = some i := by
  cases i with
  | clear =>
    show ofMnemonic? "CLS".toList = some .clear
    decide
  | jump target =>
    -- with letters for the digits, the pattern of the reader is found by computation
    obtain ⟨a, b, c, htext, hread⟩ := Text.exists_hex_three target
    rw [mnemonic, String.toList_append, htext]
    show (Text.readDigits? 16 4096 [a, b, c]).bind _ = _
    rw [hread]
    rfl
  | set x value =>
    obtain ⟨a, hx, hreadx⟩ := Text.exists_hex_one x
    obtain ⟨b, c, hvalue, hreadv⟩ := Text.exists_hex_two value
    rw [mnemonic, String.toList_append, String.toList_append, String.toList_append, hx, hvalue]
    show (Text.readDigits? 16 16 [a]).bind (fun x =>
      (Text.readDigits? 16 256 [b, c]).bind fun v => some (Instruction.set x v)) = _
    rw [hreadx, hreadv]
    rfl
  | add x value =>
    obtain ⟨a, hx, hreadx⟩ := Text.exists_hex_one x
    obtain ⟨b, c, hvalue, hreadv⟩ := Text.exists_hex_two value
    rw [mnemonic, String.toList_append, String.toList_append, String.toList_append, hx, hvalue]
    show (Text.readDigits? 16 16 [a]).bind (fun x =>
      (Text.readDigits? 16 256 [b, c]).bind fun v => some (Instruction.add x v)) = _
    rw [hreadx, hreadv]
    rfl
  | setIndex target =>
    obtain ⟨a, b, c, htext, hread⟩ := Text.exists_hex_three target
    rw [mnemonic, String.toList_append, htext]
    show (Text.readDigits? 16 4096 [a, b, c]).bind _ = _
    rw [hread]
    rfl
  | draw x y n =>
    obtain ⟨a, hx, hreadx⟩ := Text.exists_hex_one x
    obtain ⟨b, hy, hready⟩ := Text.exists_hex_one y
    obtain ⟨d, ds, hn, hreadn⟩ := Text.exists_repr n
    rw [mnemonic, String.toList_append, String.toList_append, String.toList_append,
      String.toList_append, String.toList_append, hx, hy, hn]
    show (Text.readDigits? 16 16 [a]).bind (fun x => (Text.readDigits? 16 16 [b]).bind fun y =>
      (Text.readDigits? 10 16 (d :: ds)).bind fun n => some (Instruction.draw x y n)) = _
    rw [hreadx, hready, hreadn]
    rfl
  | unknown => exact absurd rfl h

example : ofMnemonic? "DRW VA, V1, 12".toList = some (.draw 0xA 0x1 12) := by decide

theorem isPrefix_data_iff (word : Nat) (i : Instruction) :
    "DW ".toList <+: (i.mnemonic word).toList ↔ i = .unknown := by
  constructor
  · intro h
    have hdw : "DW".toList <+: "DW ".toList := by decide
    exact (isPrefix_mnemonic_iff word i).1 (hdw.trans h)
  · rintro rfl
    rw [mnemonic, String.toList_append]
    have hdw : "DW ".toList <+: "DW 0x".toList := by decide
    exact hdw.trans (List.prefix_append _ _)

end Instruction

/-! ### What a mnemonic announces -/

/-- What an instruction announces, in the numbers that its mnemonic shows: which part of a
state it changes, and to what.  The other parts stay as they are. -/
def Instruction.Announces (s t : State) : Instruction → Prop
  | clear => t.display = Display.blank ∧ s.SameBut [.display] t
  | jump target => t.pc.toNat = target.val ∧ s.SameBut [.pc] t
  | set x value => (t.register x).toNat = value.val ∧ s.SameBut [.register x] t
  | add x value =>
    (t.register x).toNat = ((s.register x).toNat + value.val) % 256 ∧ s.SameBut [.register x] t
  | setIndex target => t.index.toNat = target.val ∧ s.SameBut [.index] t
  | draw x y rows =>
    let x0 := (s.register x).toNat % 64
    let y0 := (s.register y).toNat % 32
    let canvas := Canvas.drawRows s.bytes s.index.toNat x0 y0 rows.val { display := s.display }
    if s.index.toNat + min rows.val (32 - y0) ≤ 4095 then
      t.display = canvas.display
        ∧ (t.register flagRegister).toNat = (if canvas.collision then 1 else 0)
        ∧ s.SameBut [.display, .register flagRegister] t
    else t.fault = 2 ∧ s.SameBut [.fault] t
  | unknown => False

namespace State

variable {s : State}

theorem announces_draw (s : State) (x y : Register) (n : Fin 16) :
    (Instruction.draw x y n).Announces s (s.exec (.draw x y n)) := by
  rw [Instruction.Announces]
  split
  · next hle =>
    have hr : s.refusal (.draw x y n) = none := refusal_draw_eq_none_iff.2 hle
    refine ⟨?_, ?_, exec_sameBut hr⟩
    · rw [exec, draw_eq_drawRows hr]
      rfl
    · rw [exec, draw_eq_drawRows hr, register_setRegister, if_pos rfl]
      split <;> rfl
  · next hlt =>
    have hr : s.refusal (.draw x y n) = some .outOfRange := if_neg hlt
    refine ⟨?_, exec_sameBut_of_refusal hr⟩
    rw [exec_of_refusal hr]
    rfl

theorem announces_exec {i : Instruction} (h : i ≠ .unknown) : i.Announces s (s.exec i) := by
  cases i with
  | clear => exact ⟨rfl, exec_sameBut (i := .clear) rfl⟩
  | jump target =>
    exact ⟨toNat_ofNat_address target, exec_sameBut (i := .jump target) rfl⟩
  | set x value =>
    refine ⟨?_, exec_sameBut (i := .set x value) rfl⟩
    rw [exec, register_setRegister, if_pos rfl, toNat_ofNat_byte]
  | add x value =>
    refine ⟨?_, exec_sameBut (i := .add x value) rfl⟩
    rw [exec, register_setRegister, if_pos rfl, UInt8.toNat_add, toNat_ofNat_byte]
  | setIndex target =>
    exact ⟨toNat_ofNat_address target, exec_sameBut (i := .setIndex target) rfl⟩
  | draw x y n => exact announces_draw s x y n
  | unknown => exact absurd rfl h

/-- **Mnemonics say what their words do.**  On a state without a fault, a word is shown as
data exactly if it records the fault of a word that is no instruction.  Every other
mnemonic can be read, and what it announces is what the word does. -/
theorem mnemonic_predicts_execute (s : State) (hf : s.fault = 0) {w : Nat} (hw : w < 0x10000) :
    let text := (disassemble w).toList
    let t := s.execute w
    ("DW ".toList <+: text ↔ t.fault = 1)
      ∧ (¬ "DW ".toList <+: text →
        ∃ i, Instruction.ofMnemonic? text = some i ∧ i.Announces s t) := by
  intro text t
  have htext : text = ((Instruction.ofWord w).mnemonic w).toList := by
    show (disassemble w).toList = _
    rw [disassemble_natCast hw]
  have hdata : "DW ".toList <+: text ↔ Instruction.ofWord w = .unknown := by
    rw [htext, Instruction.isPrefix_data_iff]
  constructor
  · have hfault : t.fault = s.recorded w := (recorded_of_fault hf w).symm
    rw [hdata, hfault]
    exact recorded_eq_one_iff.symm
  · intro hnot
    have hne : Instruction.ofWord w ≠ .unknown := fun h => hnot (hdata.2 h)
    refine ⟨Instruction.ofWord w, ?_, announces_exec hne⟩
    rw [htext, Instruction.ofMnemonic?_mnemonic w hne]

/-- A sum that does not fit in a byte, told from the text alone. -/
theorem mnemonic_predicts_execute_wrapped :
    (fullRows.setRegister 3 2).fault = 0 ∧ 0x73FF < 0x10000
      ∧ disassemble (0x73FF : Nat) = "ADD V3, 0xFF"
      ∧ (((fullRows.setRegister 3 2).execute (0x73FF : Nat)).register 3).toNat = 1 := by
  have hf : (fullRows.setRegister 3 2).fault = 0 := rfl
  have hw : 0x73FF < 0x10000 := by decide
  have htext : disassemble (0x73FF : Nat) = "ADD V3, 0xFF" := by decide +kernel
  have hnot : ¬ "DW ".toList <+: "ADD V3, 0xFF".toList := by decide
  have hadd : Instruction.ofMnemonic? "ADD V3, 0xFF".toList = some (.add 3 0xFF) := by decide
  obtain ⟨-, hread⟩ := mnemonic_predicts_execute (fullRows.setRegister 3 2) hf hw
  rw [htext, hadd] at hread
  obtain ⟨i, hi, hannounced⟩ := hread hnot
  obtain rfl : .add 3 0xFF = i := Option.some.inj hi
  refine ⟨hf, hw, htext, hannounced.1.trans ?_⟩
  rw [register_setRegister, if_pos rfl]
  decide

end State

end Chip8
