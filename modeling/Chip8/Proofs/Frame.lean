/-
What a word leaves alone.

An instruction writes to few parts of the state, and one that is refused writes to
the fault only.  What a word does to the other parts is said part by part:

* `Part`, `State.SameBut` — the parts of a state, and two states that are the same in
  all parts but some; `State.SameBut.eq`: the parts make up the state;
* `State.exec_sameBut`, `State.exec_sameBut_of_refusal` — what an instruction leaves alone
  when it is carried out, and when it is refused;
* `State.recorded_eq` — the fault that a word records does not depend on a fault
  recorded before;
* `Part.WrittenBy`, `Instruction.writtenBy_of_mem_writes` — the words that write to a part;
* `State.execute_frame` — which words can change a part, and which record a fault.

Design notes: a word can record a fault that was recorded already, and then nothing
shows that it did.  So the fault a word records is read off the state without one.
-/
import Chip8.Proofs.Drawing

namespace Chip8

/-- A part of the state. -/
inductive Part where
  | memory
  | register (r : Register)
  | pc
  | index
  | display
  | fault
deriving DecidableEq, Repr

/-- Whether two states are the same in a part. -/
def Part.Same (s t : State) : Part → Prop
  | memory => t.memory = s.memory
  | register r => t.register r = s.register r
  | pc => t.pc = s.pc
  | index => t.index = s.index
  | display => t.display = s.display
  | fault => t.fault = s.fault

/-- The parts that an instruction writes to when it is carried out. -/
def Instruction.writes : Instruction → List Part
  | clear => [.display]
  | jump _ => [.pc]
  | set x _ => [.register x]
  | add x _ => [.register x]
  | setIndex _ => [.index]
  | draw _ _ _ => [.display, .register flagRegister]
  | unknown => []

/-- Whether a word of sixteen bits writes to a part when it is carried out. -/
def Part.WrittenBy (w : Nat) : Part → Prop
  | memory => False
  | register r =>
    r = nibble (w / 0x100) ∧ (w / 0x1000 = 0x6 ∨ w / 0x1000 = 0x7)
      ∨ r = flagRegister ∧ w / 0x1000 = 0xD
  | pc => w / 0x1000 = 0x1
  | index => w / 0x1000 = 0xA
  | display => w = 0x00E0 ∨ w / 0x1000 = 0xD
  | fault => False

namespace State

variable {s t u : State} {ps qs : List Part}

/-- Whether two states are the same in all parts but some. -/
def SameBut (s : State) (ps : List Part) (t : State) : Prop :=
  ∀ p, p ∉ ps → p.Same s t

/-! ### States that are the same in some parts -/

theorem SameBut.refl (s : State) (ps : List Part) : s.SameBut ps s := by
  intro p _
  cases p <;> rfl

theorem SameBut.symm (h : s.SameBut ps t) : t.SameBut ps s := by
  intro p hp
  have hsame := h p hp
  cases p <;> exact hsame.symm

theorem SameBut.trans (hst : s.SameBut ps t) (htu : t.SameBut ps u) : s.SameBut ps u := by
  intro p hp
  have h₁ := hst p hp
  have h₂ := htu p hp
  cases p <;> exact h₂.trans h₁

theorem SameBut.mono (h : s.SameBut ps t) (hsub : ps ⊆ qs) : s.SameBut qs t :=
  fun p hp => h p fun hmem => hp (hsub hmem)

/-- A part that turns out to be the same need not be left out. -/
theorem SameBut.of_cons {p : Part} (h : s.SameBut (p :: ps) t) (hp : p.Same s t) :
    s.SameBut ps t := by
  intro q hq
  by_cases hqp : q = p
  · subst hqp
    exact hp
  · exact h q fun hmem => hq ((List.mem_cons.1 hmem).resolve_left hqp)

theorem SameBut.eq (h : s.SameBut [] t) : t = s := by
  have hsame (p : Part) : p.Same s t := h p List.not_mem_nil
  have hregisters : t.registers = s.registers :=
    Vector.ext fun r hr => hsame (.register ⟨r, hr⟩)
  obtain ⟨memory, registers, pc, index, display, fault⟩ := t
  obtain rfl : memory = s.memory := hsame .memory
  obtain rfl : registers = s.registers := hregisters
  obtain rfl : pc = s.pc := hsame .pc
  obtain rfl : index = s.index := hsame .index
  obtain rfl : display = s.display := hsame .display
  obtain rfl : fault = s.fault := hsame .fault
  rfl

/-! ### Instructions -/

theorem setRegister_sameBut (s : State) (x : Register) (value : Byte) :
    s.SameBut [.register x] (s.setRegister x value) := by
  intro p hp
  cases p with
  | register r =>
    have hr : r ≠ x := by
      rintro rfl
      exact hp List.mem_cons_self
    exact (register_setRegister s x r value).trans (if_neg hr)
  | _ => rfl

theorem setDisplay_sameBut (s : State) (d : Display) :
    s.SameBut [.display] { s with display := d } := by
  intro p hp
  cases p with
  | display => exact absurd List.mem_cons_self hp
  | _ => rfl

theorem setFault_sameBut (s : State) (code : FaultCode) :
    s.SameBut [.fault] { s with fault := code } := by
  intro p hp
  cases p with
  | fault => exact absurd List.mem_cons_self hp
  | _ => rfl

theorem exec_sameBut {i : Instruction} (h : s.refusal i = none) : s.SameBut i.writes (s.exec i) := by
  cases i with
  | set x value => exact setRegister_sameBut s x _
  | add x value => exact setRegister_sameBut s x _
  | draw x y n =>
    -- the flag is set in a state that has the new screen already
    rw [exec, draw_of_le (refusal_draw_eq_none_iff.1 h)]
    have hscreen := setDisplay_sameBut s (s.display.flip (s.sprite x y n))
    have hflag := setRegister_sameBut { s with display := s.display.flip (s.sprite x y n) }
      flagRegister (if s.display.overlaps (s.sprite x y n) then 1 else 0)
    exact (hscreen.mono (by simp [Instruction.writes])).trans
      (hflag.mono (by simp [Instruction.writes]))
  | unknown => exact absurd h (by simp [refusal])
  | _ =>
    intro p hp
    cases p <;> first | rfl | exact absurd List.mem_cons_self hp

theorem exec_sameBut_of_refusal {i : Instruction} {kind : Fault.Kind}
    (h : s.refusal i = some kind) : s.SameBut [.fault] (s.exec i) := by
  rw [exec_of_refusal h]
  exact setFault_sameBut s kind.code

/-! ### The fault that a word records -/

/-- The fault that a word records: the one it leaves in the state without a fault. -/
def recorded (s : State) (w : Int) : FaultCode :=
  ({ s with fault := FaultCode.none }.execute w).fault

theorem recorded_of_fault (hf : s.fault = FaultCode.none) (w : Int) :
    s.recorded w = (s.execute w).fault := by
  have hs : { s with fault := FaultCode.none } = s := by
    rw [← hf]
  rw [recorded, hs]

theorem recorded_eq (s : State) (w : Int) :
    s.recorded w = ((s.refusal (Instruction.ofWord w)).map Fault.Kind.code).getD FaultCode.none := by
  -- whether an instruction is refused does not depend on the fault
  have hrefusal : State.refusal { s with fault := FaultCode.none } (Instruction.ofWord w)
      = s.refusal (Instruction.ofWord w) := by
    cases Instruction.ofWord w <;> rfl
  rw [recorded, execute]
  cases hr : s.refusal (Instruction.ofWord w) with
  | none => exact exec_fault (hrefusal.trans hr)
  | some kind => rw [exec_of_refusal (hrefusal.trans hr), Option.map_some, Option.getD_some]

theorem recorded_eq_none_iff {w : Int} :
    s.recorded w = FaultCode.none ↔ s.refusal (Instruction.ofWord w) = none := by
  rw [recorded_eq]
  cases s.refusal (Instruction.ofWord w) with
  | none => exact iff_of_true rfl rfl
  | some kind => exact iff_of_false kind.code_ne_none (by simp)

theorem recorded_eq_code_iff {w : Int} {kind : Fault.Kind} :
    s.recorded w = kind.code ↔ s.refusal (Instruction.ofWord w) = some kind := by
  rw [recorded_eq]
  cases s.refusal (Instruction.ofWord w) with
  | none => exact iff_of_false kind.code_ne_none.symm (by simp)
  | some other =>
    rw [Option.map_some, Option.getD_some, Option.some.injEq]
    cases other <;> cases kind <;> decide

theorem execute_of_recorded {w : Int} (h : s.recorded w ≠ FaultCode.none) :
    s.execute w = { s with fault := s.recorded w } := by
  obtain ⟨kind, hr⟩ := Option.ne_none_iff_exists'.1 (mt recorded_eq_none_iff.2 h)
  rw [recorded_eq_code_iff.2 hr]
  exact exec_of_refusal hr

/-- Of the words that are an instruction, only draws leave memory. -/
theorem recorded_cases {w : Nat} (hw : w < 65536) :
    s.recorded w = 0 ∨ s.recorded w = 1 ∨ s.recorded w = 2 ∧ w / 0x1000 = 0xD := by
  cases hr : s.refusal (Instruction.ofWord w) with
  | none => exact Or.inl (recorded_eq_none_iff.2 hr)
  | some kind =>
    cases kind with
    | unimplemented => exact Or.inr (Or.inl (recorded_eq_code_iff.2 hr))
    | outOfRange =>
      obtain ⟨x, y, n, hdraw⟩ := exists_draw_of_refusal hr
      have hd := ((Instruction.ofWord_eq_draw_iff hw).1 hdraw).1
      exact Or.inr (Or.inr ⟨recorded_eq_code_iff.2 hr, hd⟩)

theorem recorded_eq_one_iff {w : Int} : s.recorded w = 1 ↔ Instruction.ofWord w = .unknown := by
  rw [← refusal_eq_unimplemented_iff (s := s)]
  show s.recorded w = Fault.Kind.unimplemented.code ↔ _
  exact recorded_eq_code_iff

/-- A part that a word changes is one that its instruction writes to, unless the word
records a fault. -/
theorem of_not_same_execute {w : Int} {p : Part} (h : ¬ p.Same s (s.execute w)) :
    p ∈ (Instruction.ofWord w).writes ∨ p = .fault ∧ s.recorded w ≠ FaultCode.none := by
  by_contra hnot
  rw [not_or, not_and_not_right] at hnot
  apply h
  cases hr : s.refusal (Instruction.ofWord w) with
  | none => exact exec_sameBut hr p hnot.1
  | some kind =>
    refine exec_sameBut_of_refusal hr p fun hmem => ?_
    have hnone := recorded_eq_none_iff.1 (hnot.2 (List.mem_singleton.1 hmem))
    rw [hr] at hnone
    exact absurd hnone (by simp)

end State

theorem Instruction.writtenBy_of_mem_writes {w : Nat} (hw : w < 65536) {p : Part}
    (h : p ∈ (ofWord w).writes) : p.WrittenBy w := by
  have henc := encodes_ofWord hw
  generalize ofWord w = i at henc h
  cases henc with
  | clear hclear =>
    obtain rfl := List.mem_singleton.1 h
    exact Or.inl hclear
  | jump hjump =>
    obtain rfl := List.mem_singleton.1 h
    exact hjump
  | set hset =>
    obtain rfl := List.mem_singleton.1 h
    exact Or.inl ⟨rfl, Or.inl hset⟩
  | add hadd =>
    obtain rfl := List.mem_singleton.1 h
    exact Or.inl ⟨rfl, Or.inr hadd⟩
  | setIndex hset =>
    obtain rfl := List.mem_singleton.1 h
    exact hset
  | draw hdraw =>
    -- a draw writes to two parts
    rcases List.mem_cons.1 h with rfl | hflag
    · exact Or.inr hdraw
    · obtain rfl := List.mem_singleton.1 hflag
      exact Or.inr ⟨rfl, hdraw⟩
  | unknown => exact absurd h List.not_mem_nil

/-- The words that are no instruction, by their first digit. -/
theorem not_implemented_iff {w : Nat} (hw : w < 65536) :
    ¬ Implemented w ↔
      w / 0x1000 ∈ [0x2, 0x3, 0x4, 0x5, 0x8, 0x9, 0xB, 0xC, 0xE, 0xF]
        ∨ w / 0x1000 = 0x0 ∧ w ≠ 0x00E0 := by
  simp only [Implemented, List.mem_cons, List.not_mem_nil, or_false]
  omega

namespace State

theorem execute_pc_of_jump (s : State) {w : Nat} (h : w / 0x1000 = 0x1) :
    (s.execute w).pc.toNat = w % 0x1000 := by
  have hjump : Instruction.ofWord w = .jump (Fields.ofWord w).nnn :=
    Instruction.ofWord_of_family (f := 0x1) h
  rw [execute, hjump, exec_pc, toNat_ofNat_address, Fields.ofWord_natCast]
  rfl

theorem execute_index_of_setIndex (s : State) {w : Nat} (h : w / 0x1000 = 0xA) :
    (s.execute w).index.toNat = w % 0x1000 := by
  have hset : Instruction.ofWord w = .setIndex (Fields.ofWord w).nnn :=
    Instruction.ofWord_of_family (f := 0xA) h
  rw [execute, hset, exec_index, toNat_ofNat_address, Fields.ofWord_natCast]
  rfl

/-- **What a word can change.**  A word of sixteen bits changes no memory, the program
counter only if it is a jump, and the address register only if it sets it; of the
registers only the one that it sets or adds to, or the flag if it draws; and the screen
only if it draws or clears it.  A word that records a fault does nothing else, whatever
fault was recorded before.  The words that are no instruction record one, and of the
others only draws can. -/
theorem execute_frame (s : State) {w : Nat} (hw : w < 0x10000) :
    let t := s.execute w
    let code := s.recorded w
    t.memory = s.memory
      ∧ (t.pc ≠ s.pc → w / 0x1000 = 0x1)
      ∧ (w / 0x1000 = 0x1 → t.pc.toNat = w % 0x1000)
      ∧ (t.index ≠ s.index → w / 0x1000 = 0xA)
      ∧ (w / 0x1000 = 0xA → t.index.toNat = w % 0x1000 ∧ t.index.toNat ≤ 0xFFF)
      ∧ (∀ r, t.register r ≠ s.register r →
        r = nibble (w / 0x100) ∧ (w / 0x1000 = 0x6 ∨ w / 0x1000 = 0x7)
          ∨ r = 0xF ∧ w / 0x1000 = 0xD)
      ∧ (t.display ≠ s.display → w = 0x00E0 ∨ w / 0x1000 = 0xD)
      ∧ (w = 0x00E0 → ∀ x y, t.display.get x y = false)
      ∧ (code = 0 ∨ code = 1 ∨ code = 2 ∧ w / 0x1000 = 0xD)
      ∧ (code = 1 ↔ w / 0x1000 ∈ [0x2, 0x3, 0x4, 0x5, 0x8, 0x9, 0xB, 0xC, 0xE, 0xF]
          ∨ w / 0x1000 = 0x0 ∧ w ≠ 0x00E0)
      ∧ (code = 0 → t.fault = s.fault)
      ∧ (code ≠ 0 → t = { s with fault := code }) := by
  intro t code
  have hwritten : ∀ p : Part, p ≠ .fault → ¬ p.Same s t → p.WrittenBy w := by
    intro p hp hne
    rcases of_not_same_execute hne with hmem | ⟨hfault, -⟩
    · exact Instruction.writtenBy_of_mem_writes hw hmem
    · exact absurd hfault hp
  refine ⟨execute_memory s w, hwritten .pc (by simp), ?_, hwritten .index (by simp), ?_,
    fun r => hwritten (.register r) (by simp), hwritten .display (by simp), ?_, ?_, ?_, ?_, ?_⟩
  · exact execute_pc_of_jump s
  · intro h
    have hindex : t.index.toNat = w % 0x1000 := execute_index_of_setIndex s h
    exact ⟨hindex, by omega⟩
  · rintro rfl x y
    exact Display.get_blank x y
  · exact recorded_cases hw
  · rw [← not_implemented_iff hw, ← Instruction.ofWord_eq_unknown_iff hw]
    exact recorded_eq_one_iff
  · intro hcode
    exact exec_fault (recorded_eq_none_iff.1 hcode)
  · intro hcode
    exact execute_of_recorded hcode

/-- A draw beyond the end of memory, on a state with another fault: the code of the draw
takes its place, and nothing else changes. -/
theorem execute_frame_beyondEnd :
    drawWord 15 15 15 < 0x10000
      ∧ State.recorded { index := 4095, fault := 1 } (drawWord 15 15 15) = 2
      ∧ State.execute { index := 4095, fault := 1 } (drawWord 15 15 15)
        = { index := 4095, fault := 2 } := by
  have hw : drawWord 15 15 15 < 0x10000 := by decide
  have hcode : State.recorded { index := 4095, fault := 1 } (drawWord 15 15 15) = 2 := by
    rw [recorded_eq, Instruction.ofWord_drawWord]
    rfl
  obtain ⟨-, -, -, -, -, -, -, -, -, -, -, hsome⟩ := execute_frame { index := 4095, fault := 1 } hw
  have ht := hsome (by rw [hcode]; decide)
  rw [hcode] at ht
  exact ⟨hw, hcode, ht⟩

end State

end Chip8
