/-
Draws commute.

A stamp is a sprite that is drawn from an address of its own, by two words: one sets the
address register, the other draws.  Its position is held in registers other than the
flag, so no stamp changes what another one depends on.  Some stamps that are drawn one
after the other lay their masks over the screen, each that is in memory once:

* `Stamp`, `Stamp.words` — stamps, and the words that draw them;
* `State.Overlaid` — what some stamps make of a state, said without their order;
* `State.Overlaid.snoc`, `State.overlaid_executeAll` — one more stamp, and all stamps of
  a list;
* `State.executeAll_filter` — stamps that are not in memory leave the fault and the
  address register behind, and nothing else;
* `State.stamps_commute` — stamps may be drawn in any order.

Design notes: the address register ends up where the last stamp is, and the flag tells
of the last one that could be drawn; these two depend on the order.
-/
import Chip8.Proofs.Redraw

namespace Chip8

/-- The word that sets the address register. -/
def setIndexWord (target : Address) : Nat :=
  0xA000 + target.val

theorem Instruction.ofWord_setIndexWord (target : Address) :
    ofWord (setIndexWord target) = .setIndex target := by
  have htarget := target.isLt
  have hfamily : setIndexWord target / 0x1000 = 0xA := by
    unfold setIndexWord
    omega
  have hnnn : Fin.ofNat 4096 (setIndexWord target) = target := by
    apply Fin.ext
    rw [Fin.val_ofNat, setIndexWord]
    omega
  rw [ofWord_of_family (f := 0xA) hfamily, Operation.ofFamily, Operation.read,
    Fields.ofWord_natCast, hnnn]

/-- A sprite that is drawn from an address, at a position that is not held in the flag. -/
structure Stamp where
  index : Address
  x : Register
  y : Register
  height : Fin 16
  x_ne : x ≠ flagRegister
  y_ne : y ≠ flagRegister

namespace Stamp

/-- The words that draw a stamp. -/
def words (k : Stamp) : List Int :=
  [setIndexWord k.index, drawWord k.x k.y k.height]

/-- Whether the rows of a stamp that land on the screen are in memory. -/
def InRange (k : Stamp) (s : State) : Prop :=
  k.index.val + min k.height.val (32 - (s.register k.y).toNat % 32) ≤ 4095

instance (k : Stamp) (s : State) : Decidable (k.InRange s) := by
  unfold InRange; infer_instance

/-- The mask of a stamp. -/
def mask (k : Stamp) (s : State) : Display :=
  Sprite.mask s.memory.toArray k.index.val ((s.register k.x).toNat % 64 : Nat)
    ((s.register k.y).toNat % 32 : Nat) k.height.val

end Stamp

namespace State

variable {s t : State} {k : Stamp} {ks : List Stamp}

/-- Carries out some words, whatever fault is recorded. -/
def executeAll (s : State) (ws : List Int) : State :=
  ws.foldl execute s

theorem executeAll_append (s : State) (ws vs : List Int) :
    s.executeAll (ws ++ vs) = (s.executeAll ws).executeAll vs :=
  List.foldl_append

/-! ### One stamp -/

theorem executeAll_words (s : State) (k : Stamp) :
    s.executeAll k.words = (s.exec (.setIndex k.index)).exec (.draw k.x k.y k.height) := by
  show (s.execute (setIndexWord k.index)).execute (drawWord k.x k.y k.height) = _
  rw [execute_drawWord, execute, Instruction.ofWord_setIndexWord]

theorem setIndex_sameBut (s : State) (target : Address) :
    s.SameBut [.index] (s.exec (.setIndex target)) :=
  exec_sameBut (i := .setIndex target) rfl

theorem refusal_stamp_iff :
    (s.exec (.setIndex k.index)).refusal (.draw k.x k.y k.height) = none ↔ k.InRange s := by
  rw [refusal_draw_eq_none_iff, exec_index, toNat_ofNat_address]
  rfl

theorem sprite_stamp : (s.exec (.setIndex k.index)).sprite k.x k.y k.height = k.mask s := by
  rw [sprite, exec_index, toNat_ofNat_address]
  rfl

theorem executeAll_words_of_inRange (h : k.InRange s) :
    s.SameBut [.index, .display, .register 0xF] (s.executeAll k.words)
      ∧ (s.executeAll k.words).display = s.display.flip (k.mask s)
      ∧ (s.executeAll k.words).fault = s.fault := by
  have hr := refusal_stamp_iff.2 h
  rw [executeAll_words]
  refine ⟨?_, ?_, ?_⟩
  · exact ((setIndex_sameBut s k.index).mono (by simp)).trans
      ((exec_sameBut hr).mono (by simp [Instruction.writes]))
  · rw [display_draw hr, sprite_stamp]
    rfl
  · rw [exec_fault hr]
    rfl

theorem executeAll_words_of_not_inRange (h : ¬ k.InRange s) :
    s.executeAll k.words = { s.exec (.setIndex k.index) with fault := FaultCode.outOfRange } := by
  rw [executeAll_words]
  refine draw_of_lt (Nat.not_le.1 fun hle => h ?_)
  exact refusal_stamp_iff.1 (refusal_draw_eq_none_iff.2 hle)

theorem sameBut_of_not_inRange (h : ¬ k.InRange s) :
    s.SameBut [.index, .fault] (s.executeAll k.words) := by
  rw [executeAll_words_of_not_inRange h]
  exact ((setIndex_sameBut s k.index).mono (by simp)).trans
    ((setFault_sameBut _ FaultCode.outOfRange).mono (by simp))

/-! ### All stamps of a list -/

/-- What some stamps make of a state: those that are in memory lay their masks over the
screen, and the others leave their fault. -/
structure Overlaid (s : State) (ks : List Stamp) (t : State) : Prop where
  same : s.SameBut [.index, .display, .register 0xF, .fault] t
  display : t.display
    = (ks.filter (·.InRange s)).foldl (fun d k => d.flip (k.mask s)) s.display
  fault : t.fault = if ∀ k ∈ ks, k.InRange s then s.fault else FaultCode.outOfRange

/-- No stamp changes what another one depends on. -/
theorem Overlaid.register_eq (h : s.Overlaid ks t) {x : Register} (hx : x ≠ 0xF) :
    t.register x = s.register x :=
  h.same (.register x) (by simp [hx])

theorem Overlaid.inRange_iff (h : s.Overlaid ks t) : k.InRange t ↔ k.InRange s := by
  rw [Stamp.InRange, Stamp.InRange, h.register_eq k.y_ne]

theorem Overlaid.mask_eq (h : s.Overlaid ks t) : k.mask t = k.mask s := by
  have hmemory : t.memory = s.memory := h.same .memory (by simp)
  rw [Stamp.mask, Stamp.mask, hmemory, h.register_eq k.x_ne, h.register_eq k.y_ne]

theorem overlaid_nil (s : State) : s.Overlaid [] s where
  same := .refl s _
  display := rfl
  fault := by simp

theorem Overlaid.snoc (h : s.Overlaid ks t) (k : Stamp) :
    s.Overlaid (ks ++ [k]) (t.executeAll k.words) := by
  by_cases hk : k.InRange s
  · obtain ⟨hsame, hdisplay, hfault⟩ := executeAll_words_of_inRange (h.inRange_iff.2 hk)
    refine ⟨h.same.trans (hsame.mono ?_), ?_, ?_⟩
    · simp
    · rw [hdisplay, h.display, h.mask_eq, List.filter_append, List.filter_singleton,
        decide_eq_true hk, cond_true, List.foldl_append, List.foldl_cons, List.foldl_nil]
    · rw [hfault, h.fault]
      simp [or_imp, forall_and, hk]
  · have hout := executeAll_words_of_not_inRange fun hin => hk (h.inRange_iff.1 hin)
    have hsame := sameBut_of_not_inRange fun hin => hk (h.inRange_iff.1 hin)
    refine ⟨h.same.trans (hsame.mono ?_), ?_, ?_⟩
    · simp
    · rw [hout, List.filter_append, List.filter_singleton, decide_eq_false hk, cond_false,
        List.append_nil, ← h.display]
      rfl
    · rw [hout, if_neg fun hall => hk (hall k (by simp))]

theorem executeAll_flatMap_append (s : State) (ks ls : List Stamp) :
    s.executeAll ((ks ++ ls).flatMap Stamp.words)
      = (s.executeAll (ks.flatMap Stamp.words)).executeAll (ls.flatMap Stamp.words) := by
  rw [List.flatMap_append, executeAll_append]

theorem overlaid_executeAll (s : State) (ks : List Stamp) :
    s.Overlaid ks (s.executeAll (ks.flatMap Stamp.words)) := by
  -- from the end, since the masks are those of the first state
  induction ks using List.reverseRecOn with
  | nil => exact overlaid_nil s
  | append_singleton ks k ih =>
    rw [executeAll_flatMap_append, List.flatMap_singleton]
    exact ih.snoc k

/-! ### Stamps that are not in memory -/

theorem exec_draw_withFault {x y : Register} {n : Fin 16} (h : s.refusal (.draw x y n) = none)
    (code : FaultCode) :
    exec { s with fault := code } (.draw x y n)
      = { s.exec (.draw x y n) with fault := code } := by
  have hle := refusal_draw_eq_none_iff.1 h
  rw [exec, exec, draw_of_le hle]
  exact draw_of_le hle

/-- A stamp does the same whatever the address register and the fault were. -/
theorem executeAll_words_congr (h : s.SameBut [.index, .fault] t) (hk : k.InRange s) :
    (s.executeAll k.words).SameBut [.index, .fault] (t.executeAll k.words) := by
  have hset : t.exec (.setIndex k.index)
      = { s.exec (.setIndex k.index) with fault := t.fault } := by
    apply SameBut.eq
    intro p _
    have hp := h p
    cases p with
    | index => rfl
    | fault => rfl
    | _ => exact hp (by simp)
  have hdraw := exec_draw_withFault (refusal_stamp_iff.2 hk) t.fault
  rw [executeAll_words, executeAll_words, hset, hdraw]
  exact (setFault_sameBut _ t.fault).mono (by simp)

/-- Stamps that are not in memory leave their fault and the address register behind, and
nothing else. -/
theorem executeAll_filter (s : State) (ks : List Stamp) :
    (s.executeAll ((ks.filter (·.InRange s)).flatMap Stamp.words)).SameBut [.index, .fault]
      (s.executeAll (ks.flatMap Stamp.words)) := by
  induction ks using List.reverseRecOn with
  | nil => exact .refl s _
  | append_singleton ks k ih =>
    have hall := overlaid_executeAll s ks
    have hsome := overlaid_executeAll s (ks.filter (·.InRange s))
    rw [List.filter_append, List.filter_singleton, executeAll_flatMap_append,
      executeAll_flatMap_append, List.flatMap_singleton]
    by_cases hk : k.InRange s
    · rw [decide_eq_true hk, cond_true, List.flatMap_singleton]
      exact executeAll_words_congr ih (hsome.inRange_iff.2 hk)
    · rw [decide_eq_false hk, cond_false]
      exact ih.trans (sameBut_of_not_inRange fun hin => hk (hall.inRange_iff.1 hin))

/-- **Draws commute.**  Stamps drawn in any order leave the same state, but for the address
register and the flag, and leave all other registers as they were.  The screen is the one
before, with the masks of the stamps in memory turned over.  A stamp that is not in memory
leaves its fault and the address register behind, and nothing else. -/
theorem stamps_commute (s : State) {ks ls : List Stamp} (h : ks.Perm ls) :
    let t := s.executeAll (ks.flatMap Stamp.words)
    let u := s.executeAll (ls.flatMap Stamp.words)
    let inside := ks.filter (·.InRange s)
    t.SameBut [.index, .register 0xF] u
      ∧ s.SameBut [.index, .display, .register 0xF, .fault] t
      ∧ t.display = inside.foldl (fun d k => d.flip (k.mask s)) s.display
      ∧ t.fault = (if ∀ k ∈ ks, k.InRange s then s.fault else 2)
      ∧ (s.executeAll (inside.flatMap Stamp.words)).SameBut [.index, .fault] t := by
  intro t u inside
  have ht := overlaid_executeAll s ks
  have hu := overlaid_executeAll s ls
  have hdisplay : u.display = t.display := by
    rw [ht.display, hu.display]
    exact (h.symm.filter _).foldl_eq' (fun k _ l _ d => Display.flip_comm d _ _) _
  have hfault : u.fault = t.fault := by
    rw [ht.fault, hu.fault]
    simp only [h.mem_iff]
  refine ⟨?_, ht.same, ht.display, ht.fault, executeAll_filter s ks⟩
  intro p hp
  cases p with
  | display => exact hdisplay
  | fault => exact hfault
  | index => exact absurd List.mem_cons_self hp
  | register r =>
    have hr : r ≠ 0xF := by
      rintro rfl
      exact hp (by simp)
    exact (hu.register_eq hr).trans (ht.register_eq hr).symm
  | _ => exact (ht.same.symm.trans hu.same) _ (by simp)

/-- A stamp of one row, at the position held in two registers. -/
def rowStamp (index : Address) : Stamp where
  index
  x := nibble 0
  y := nibble 1
  height := nibble 1
  x_ne := by decide
  y_ne := by decide

/-- A stamp in memory and one beyond its end, in both orders: the screen shows the first, and
the fault is that of the second. -/
theorem stamps_commute_fullRows :
    [rowStamp 0, rowStamp 4095].Perm [rowStamp 4095, rowStamp 0]
      ∧ (fullRows.executeAll ([rowStamp 0, rowStamp 4095].flatMap Stamp.words)).SameBut
        [.index, .register 0xF]
        (fullRows.executeAll ([rowStamp 4095, rowStamp 0].flatMap Stamp.words))
      ∧ (fullRows.executeAll ([rowStamp 0, rowStamp 4095].flatMap Stamp.words)).display
        = Display.blank.flip ((rowStamp 0).mask fullRows)
      ∧ (fullRows.executeAll ([rowStamp 0, rowStamp 4095].flatMap Stamp.words)).fault = 2 := by
  have hperm : [rowStamp 0, rowStamp 4095].Perm [rowStamp 4095, rowStamp 0] := .swap _ _ _
  have hin : (rowStamp 0).InRange fullRows := by decide
  have hout : ¬ (rowStamp 4095).InRange fullRows := by decide
  have hinside : [rowStamp 0, rowStamp 4095].filter (·.InRange fullRows) = [rowStamp 0] := by
    simp [hin, hout]
  obtain ⟨hsame, -, hdisplay, hfault, -⟩ := stamps_commute fullRows hperm
  refine ⟨hperm, hsame, ?_, ?_⟩
  · rw [hdisplay, hinside]
    rfl
  · rw [hfault, if_neg fun hall => hout (hall _ (by simp))]

end State

end Chip8
