/-
The trace is a transcript of the run.

A machine that traces its instructions, on a logger that prints everything and
adds neither times nor colours, prints one line for each instruction that it
carries out, and one more if it stops at a fault.  Nothing is printed for the
instruction that fails.

* `Log.Logger.Plain.log_eq` — what such a logger prints;
* `State.traceLine`, `Fault.line` — the two kinds of lines, and
  `State.singleLine_traceLine`, `Fault.singleLine_line`: they are single lines;
* `Instruction.isPrefix_disassemble_iff` — the mnemonics of data are those of words
  that are no instruction;
* `Machine.Verbose.text_commit`, `Machine.Verbose.text_report` — what a step prints;
* `Machine.Transcribed.step`, `Machine.Verbose.runFor_transcribed` — a step keeps the
  transcript up, and so does a run;
* `Machine.run_transcript` — the text that a program's run prints.

Design notes: the lines are read off the states of the core, which do not depend
on the journal, and their number is the increase of the counter of steps.
-/
import Chip8.Proofs.Composition

namespace Chip8

/-! ### Lines of text -/

namespace Text

/-- Whether a character does not occur in a text. -/
def Lacks (c : Char) (s : String) : Prop := c ∉ s.toList

instance (c : Char) (s : String) : Decidable (Lacks c s) :=
  inferInstanceAs (Decidable (c ∉ s.toList))

theorem Lacks.append {c : Char} {s t : String} (hs : Lacks c s) (ht : Lacks c t) :
    Lacks c (s ++ t) := by
  rw [Lacks, String.toList_append, List.mem_append]
  rintro (h | h)
  · exact hs h
  · exact ht h

theorem lacks_of_subset {c : Char} {cs : List Char} (hc : c ∉ cs) {s : String}
    (h : s.toList ⊆ cs) : Lacks c s :=
  fun hmem => hc (h hmem)

/-- Whether a text has no line break. -/
def SingleLine (s : String) : Prop := '\n' ∉ s.toList

instance (s : String) : Decidable (SingleLine s) := by
  unfold SingleLine; infer_instance

theorem SingleLine.append {s t : String} (hs : SingleLine s) (ht : SingleLine t) :
    SingleLine (s ++ t) :=
  Lacks.append hs ht

theorem exists_of_mem_hexDigits {c : Char} {n : Nat} (h : c ∈ hexDigits n) :
    ∃ d < 16, c = hexDigit d := by
  fun_induction hexDigits n with
  | case1 n hn => exact ⟨n, hn, List.mem_singleton.1 h⟩
  | case2 n hn ih =>
    rw [List.mem_append, List.mem_singleton] at h
    rcases h with h | rfl
    · exact ih h
    · exact ⟨n % 16, Nat.mod_lt _ (by decide), rfl⟩

theorem lacks_hex {c : Char} (hsign : c ≠ '-') (hdigit : ∀ d : Fin 16, c ≠ hexDigit d)
    (width : Nat) (n : Int) : Lacks c (hex width n) := by
  rw [Lacks, hex, String.toList_ofList, List.mem_append, List.mem_append]
  rintro ((h | h) | h)
  · -- the sign, if there is one
    split at h
    · exact hsign (List.mem_singleton.1 h)
    · exact absurd h List.not_mem_nil
  · exact hdigit 0 (List.eq_of_mem_replicate h)
  · obtain ⟨d, hd, hc⟩ := exists_of_mem_hexDigits h
    exact hdigit ⟨d, hd⟩ hc

theorem singleLine_hex (width : Nat) (n : Int) : SingleLine (hex width n) :=
  lacks_hex (by decide) (by decide) width n

end Text

namespace Log

/-- The text of some lines, each of which is ended. -/
def unlines : List String → String
  | [] => ""
  | line :: lines => line ++ "\n" ++ unlines lines

theorem unlines_append (lines more : List String) :
    unlines (lines ++ more) = unlines lines ++ unlines more := by
  induction lines with
  | nil => rw [List.nil_append, unlines, String.empty_append]
  | cons line lines ih =>
    rw [List.cons_append, unlines, unlines, ih]
    simp only [String.append_assoc]

theorem unlines_singleton (line : String) : unlines [line] = line ++ "\n" := by
  rw [unlines, unlines, String.append_empty]

/-! ### A logger that prints everything as it is -/

/-- A logger that prints all levels, without times and colours. -/
structure Logger.Plain (logger : Logger) : Prop where
  threshold : rankOfName logger.threshold = 0
  timestamps : logger.timestamps = false
  colors : logger.colors = false

theorem Logger.Plain.log_eq {logger : Logger} (h : logger.Plain) (level message : String)
    (console : Console) :
    logger.log level message console
      = console.print
        ("[" ++ padLeft 8 level ++ "][" ++ logger.name ++ "] " ++ message ++ "\n") := by
  have hpasses : logger.passes level = true := by
    rw [passes, h.threshold]
    exact decide_eq_true (Nat.zero_le _)
  have hcolor (name : String) : logger.colorOf name = "" := by
    rw [colorOf, h.colors, if_neg (by decide)]
  have hjoin (s : String) : s ++ "]" ++ "[" = s ++ "][" := by
    rw [String.append_assoc]
    rfl
  have hbody : logger.body level message
      = "[" ++ padLeft 8 level ++ "][" ++ logger.name ++ "] " ++ message ++ "\n" := by
    rw [body, entry, hcolor, hcolor, String.empty_append, String.append_empty, hjoin]
  rw [log, hpasses, if_pos rfl, h.timestamps, if_neg (by decide), hbody]

theorem Logger.plain_create {options : Options} {console : Console}
    (hlevel : Text.upper options.level = "DEBUG") (hstamps : options.timestamps = false)
    (hcolors : options.colors = false ∨ console.isTerminal = false) :
    (create options console).1.Plain where
  threshold := by
    show rankOfName (Text.upper options.level) = 0
    rw [hlevel]
    exact rankOfName_name .debug
  timestamps := hstamps
  colors := Bool.and_eq_false_iff.2 hcolors

namespace Journal

variable {j : Journal}

theorem text_report (h : j.logger.Plain) (level : Level) (message : String) :
    (j.report level message).console.text
      = j.console.text ++ unlines ["[" ++ padLeft 8 level.name ++ "][" ++ j.logger.name ++ "] "
        ++ message] := by
  rw [report, h.log_eq, Console.text_print, unlines_singleton]

end Journal

end Log

/-! ### The lines of a run -/

/-- The line of the trace for the instruction that a state is about to carry out:
its address, its word, and its mnemonic. -/
def State.traceLine (s : State) : String :=
  "[   DEBUG][Machine] " ++ ("0x" ++ Text.hex 3 s.pc.toNat ++ ": " ++ Text.hex 4 s.word ++ "  "
    ++ disassemble s.word)

/-- The line that reports a fault. -/
def Fault.line (f : Fault) : String :=
  "[   ERROR][Machine] " ++ (f.name ++ ": " ++ f.message)

namespace Instruction

theorem singleLine_mnemonic (word : Nat) (i : Instruction) :
    Text.SingleLine (i.mnemonic word) := by
  have hhex := Text.singleLine_hex
  cases i with
  | clear =>
    show Text.SingleLine "CLS"
    decide
  | jump target => exact .append (by decide) (hhex _ _)
  | set x value =>
    exact (((Text.SingleLine.append (by decide) (hhex _ _)).append (by decide)).append (hhex _ _))
  | add x value =>
    exact (((Text.SingleLine.append (by decide) (hhex _ _)).append (by decide)).append (hhex _ _))
  | setIndex target => exact .append (by decide) (hhex _ _)
  | draw x y height =>
    have hheight : ∀ n : Fin 16, Text.SingleLine (Nat.repr n.val) := by decide
    exact (((((Text.SingleLine.append (by decide) (hhex _ _)).append (by decide)).append
      (hhex _ _)).append (by decide)).append (hheight height))
  | unknown => exact .append (by decide) (hhex _ _)

/-- A mnemonic that says `DW` is that of data. -/
theorem isPrefix_mnemonic_iff (word : Nat) (i : Instruction) :
    "DW".toList <+: (i.mnemonic word).toList ↔ i = .unknown := by
  cases i <;> simp [mnemonic]

theorem isPrefix_disassemble_iff {w : Nat} (hw : w < 65536) :
    "DW".toList <+: (disassemble w).toList ↔ ¬ Implemented w := by
  rw [disassemble_natCast hw, isPrefix_mnemonic_iff, ofWord_eq_unknown_iff hw]

end Instruction

theorem State.singleLine_traceLine (s : State) : Text.SingleLine s.traceLine := by
  have hhex := Text.singleLine_hex
  have hmnemonic : Text.SingleLine (disassemble s.word) := by
    rw [disassemble_eq_mnemonic]
    exact Instruction.singleLine_mnemonic _ _
  exact .append (by decide) (((((Text.SingleLine.append (by decide) (hhex _ _)).append
    (by decide)).append (hhex _ _)).append (by decide)).append hmnemonic)

/-- The characters that describe faults, other than those of numbers. -/
def Fault.letters : List Char :=
  "UnimplementedInstruction: AddressOutOfRange instruction 0x at accessed memory out of range".toList

/-- What describes a fault has no characters but these, and those of its numbers. -/
theorem Fault.lacks_message {c : Char} (hhex : ∀ width n, Text.Lacks c (Text.hex width n))
    (hc : c ∉ letters) (f : Fault) : Text.Lacks c (f.name ++ ": " ++ f.message) := by
  have hword {s : String} (h : s.toList ⊆ letters) : Text.Lacks c s :=
    Text.lacks_of_subset hc h
  have hname : Text.Lacks c f.name := by
    cases f with
    | unimplemented word address => exact hword (s := "UnimplementedInstruction") (by decide)
    | outOfRange address word => exact hword (s := "AddressOutOfRange") (by decide)
  have hmessage : Text.Lacks c f.message := by
    cases f with
    | unimplemented word address =>
      exact (((hword (by decide)).append (hhex 4 word)).append (hword (by decide))).append
        (hhex 3 address)
    | outOfRange address word =>
      cases word with
      | none => exact ((hword (by decide)).append (hhex 3 address)).append (hword (by decide))
      | some word =>
        exact ((((hword (by decide)).append (hhex 4 word)).append (hword (by decide))).append
          (hhex 3 address)).append (hword (by decide))
  exact (hname.append (hword (by decide))).append hmessage

theorem Fault.singleLine_line (f : Fault) : Text.SingleLine f.line :=
  .append (by decide) (f.lacks_message Text.singleLine_hex (by decide))

/-! ### What steps and runs print -/

namespace Machine

/-- A machine that traces its instructions to a logger that prints everything as it
is. -/
structure Verbose (m : Machine) : Prop where
  healthy : m.Healthy
  tracing : m.config.tracing = true
  plain : m.journal.logger.Plain
  name : m.journal.logger.name = "Machine"

theorem step_logger (m : Machine) : m.step.1.journal.logger = m.journal.logger := by
  cases hadv : advance m.state with
  | ok r =>
    rw [step_of_ok hadv]
    show (if m.config.tracing then _ else m.journal : Log.Journal).logger = _
    split <;> rfl
  | error f =>
    rw [step_of_fault hadv]
    rfl

theorem Verbose.step {m : Machine} (h : m.Verbose) : m.step.1.Verbose where
  healthy := h.healthy.step
  tracing := by
    rw [step_config]
    exact h.tracing
  plain := by
    rw [step_logger]
    exact h.plain
  name := by rw [step_logger, h.name]

theorem Verbose.after_runFor {m : Machine} (h : m.Verbose) (n : Nat) : (runFor n m).1.Verbose :=
  runFor_invariant (fun _ => Verbose.step) n h

theorem Verbose.text_commit {m : Machine} (h : m.Verbose) :
    m.commit.journal.console.text
      = m.journal.console.text ++ Log.unlines [m.state.traceLine] := by
  have hjournal : m.commit.journal = m.journal.recordStep m.state.pc.toNat m.state.word :=
    if_pos h.tracing
  have hplain : { m.journal with traced := m.journal.traced + 1 }.logger.Plain := h.plain
  have hhead : "[" ++ Log.padLeft 8 Log.Level.debug.name ++ "][" ++ m.journal.logger.name ++ "] "
      = "[   DEBUG][Machine] " := by
    rw [h.name]
    decide +kernel
  rw [hjournal, Log.Journal.recordStep, Log.Journal.text_report hplain]
  -- only unfolded: a rewrite goes on to compare the two texts, which takes long
  unfold State.traceLine
  rw [hhead]

theorem Verbose.text_report {m : Machine} (h : m.Verbose) (f : Fault) :
    (m.report f).journal.console.text = m.journal.console.text ++ Log.unlines [f.line] := by
  have hhead : "[" ++ Log.padLeft 8 Log.Level.error.name ++ "][" ++ m.journal.logger.name ++ "] "
      = "[   ERROR][Machine] " := by
    rw [h.name]
    decide +kernel
  show (m.journal.recordFault f).console.text = _
  rw [Log.Journal.recordFault, Log.Journal.text_report h.plain]
  unfold Fault.line
  rw [hhead]

/-- The lines of a run that has carried out so many instructions. -/
def transcript (m : Machine) (k : Nat) (fault : Option Fault) : List String :=
  (List.range k).map (fun i => (m.state.after i).traceLine) ++ fault.toList.map Fault.line

theorem singleLine_of_mem_transcript {m : Machine} {k : Nat} {fault : Option Fault} {line : String}
    (h : line ∈ m.transcript k fault) : Text.SingleLine line := by
  rw [transcript, List.mem_append, List.mem_map, List.mem_map] at h
  rcases h with ⟨i, -, rfl⟩ | ⟨f, -, rfl⟩
  · exact State.singleLine_traceLine _
  · exact Fault.singleLine_line f

/-- That a run has carried out so many instructions and has printed a line for each of
them, and for the fault at which it has stopped. -/
structure Transcribed (m : Machine) (k : Nat) (r : Machine × Option Fault) : Prop where
  steps : r.1.steps = m.steps + k
  state : r.1.state = m.state.after k
  implemented : ∀ i < k, Implemented (m.state.after i).word
  text : r.1.journal.console.text = m.journal.console.text ++ Log.unlines (m.transcript k r.2)

theorem transcribed_zero (m : Machine) : m.Transcribed 0 (m, none) :=
  ⟨rfl, rfl, fun i hi => absurd hi (Nat.not_lt_zero i), String.append_empty.symm⟩

/-- A run that goes on by one step prints one line more, whether the step returns or
fails. -/
theorem Transcribed.step {m c : Machine} {k : Nat} (h : m.Transcribed k (c, none))
    (hc : c.Verbose) : ∃ l, m.Transcribed l c.step := by
  have hsteps : c.steps = m.steps + k := h.steps
  have hstate : c.state = m.state.after k := h.state
  have htext : c.journal.console.text
      = m.journal.console.text ++ Log.unlines (m.transcript k none) := h.text
  rcases step_cases hc.healthy.fault with ⟨hfits, hr, hstep⟩ | ⟨f, -, hstep⟩
  · rw [hstep]
    refine ⟨k + 1, ?_, ?_, ?_, ?_⟩
    · rw [commit_steps, hsteps, Nat.add_assoc]
    · rw [State.after_succ, ← hstate, State.step_of_fits hc.healthy.fault hfits, commit_state]
    · intro i hi
      rcases Nat.lt_succ_iff_lt_or_eq.1 hi with hlt | rfl
      · exact h.implemented i hlt
      · rw [← hstate]
        exact ((State.refusal_ofWord_eq_none_iff c.state.word_lt hc.healthy.index).1 hr).1
    · -- the line of the instruction comes after those before it
      have hlines : m.transcript (k + 1) none = m.transcript k none ++ [c.state.traceLine] := by
        simp [transcript, List.range_succ, hstate]
      rw [hc.text_commit, htext, String.append_assoc, ← Log.unlines_append, hlines]
  · -- a step that fails prints its fault, and nothing for its instruction
    rw [hstep]
    refine ⟨k, hsteps, hstate, h.implemented, ?_⟩
    have hlines : m.transcript k (some f) = m.transcript k none ++ [f.line] := by
      simp [transcript]
    rw [hc.text_report, htext, String.append_assoc, ← Log.unlines_append, hlines]

/-- A run with one more instruction. -/
theorem runFor_succ_last (n : Nat) (m : Machine) :
    runFor (n + 1) m = match (runFor n m).2 with
      | none => (runFor n m).1.step
      | some fault => ((runFor n m).1, some fault) := by
  rw [runFor_add]
  cases (runFor n m).2 with
  | none =>
    show runFor 1 _ = _
    rw [runFor_succ]
    cases hstep : (runFor n m).1.step with
    | mk k fault => cases fault <;> rfl
  | some fault => rfl

/-- **What a run prints.** -/
theorem Verbose.runFor_transcribed {m : Machine} (h : m.Verbose) (n : Nat) :
    ∃ k, m.Transcribed k (runFor n m) := by
  induction n with
  | zero => exact ⟨0, transcribed_zero m⟩
  | succ n ih =>
    obtain ⟨k, hk⟩ := ih
    have hverbose := h.after_runFor n
    rw [runFor_succ_last]
    cases hend : runFor n m with
    | mk c fault =>
      rw [hend] at hk hverbose
      cases fault with
      | none => exact hk.step hverbose
      | some f => exact ⟨k, hk⟩

/-- **The trace is a transcript.**  A program that is traced, with the level `DEBUG`
in letters of any case and without times and colours, prints as it runs one line for
each instruction that it carries out, in their order, and at the end the line of the
fault if the run has stopped at one.  There are as many lines of the trace as the
counter of steps has gone up; no line is broken, and none shows its word as data. -/
theorem run_transcript {rom : Array Byte} {options : Log.Options} {console : Log.Console}
    {config : Config} (htracing : config.tracing = true) {m : Machine}
    (h : load rom config (Log.Journal.create options console) = .ok m)
    (hname : options.name = "Machine") (hlevel : Text.upper options.level = "DEBUG")
    (hstamps : options.timestamps = false)
    (hcolors : options.colors = false ∨ console.isTerminal = false) (n : Int) :
    ∃ k, (m.run n).1.steps = m.steps + k
      ∧ (m.run n).1.state = m.state.after k
      ∧ (let lines := (List.range k).map (fun i => (m.state.after i).traceLine)
          ++ (match (m.run n).2 with
            | some (.fault f) => [f.line]
            | _ => [])
        (m.run n).1.journal.console.text = m.journal.console.text ++ Log.unlines lines
          ∧ ∀ line ∈ lines, Text.SingleLine line)
      ∧ ∀ i < k, ¬ "DW".toList <+: (disassemble (m.state.after i).word).toList := by
  have hm : m.Verbose := by
    obtain ⟨-, rfl⟩ := load_eq_ok_iff.1 h
    exact ⟨healthy_loaded _ _ _, htracing, Log.Logger.plain_create hlevel hstamps hcolors, hname⟩
  by_cases hlimit : runLimit < n
  · -- a run that is too long does nothing, and prints nothing
    rw [run_of_lt hlimit]
    exact ⟨0, rfl, rfl, ⟨String.append_empty.symm, fun line hline => absurd hline List.not_mem_nil⟩,
      fun i hi => absurd hi (Nat.not_lt_zero i)⟩
  · obtain ⟨k, hk⟩ := hm.runFor_transcribed n.toNat
    have hlines : (List.range k).map (fun i => (m.state.after i).traceLine)
        ++ (match (runFor n.toNat m).2.map Stop.fault with
          | some (.fault f) => [f.line]
          | _ => []) = m.transcript k (runFor n.toNat m).2 := by
      cases (runFor n.toNat m).2 with
      | none => rfl
      | some f => rfl
    rw [run_of_le (Int.not_lt.1 hlimit)]
    refine ⟨k, hk.steps, hk.state, ?_, fun i hi => ?_⟩
    · dsimp only
      rw [hlines]
      exact ⟨hk.text, fun line => singleLine_of_mem_transcript⟩
    · rw [Instruction.isPrefix_disassemble_iff (State.word_lt _), not_not]
      exact hk.implemented i hi

/-- Settings that print everything as it is. -/
def plainOptions : Log.Options where
  name := "Machine"
  level := "dEbUg"
  timestamps := false

/-- A console that is no terminal. -/
def plainConsole : Log.Console := { clock := Log.Clock.stopped 0 }

theorem traceLine_loaded_selfJump (config : Config) (journal : Log.Journal) :
    (loaded selfJump config journal).state.traceLine
      = "[   DEBUG][Machine] 0x200: 1200  JP 0x200" := by
  have hpc : (loaded selfJump config journal).state.pc.toNat = 0x200 := by
    show (UInt16.ofNat 0x200).toNat = 0x200
    decide
  unfold State.traceLine
  rw [word_loaded_selfJump, hpc]
  decide +kernel

/-- A program that jumps to itself prints its one line again and again, and an empty
program prints the line of its fault. -/
theorem run_transcript_selfJump :
    let journal := Log.Journal.create plainOptions plainConsole
    Text.upper plainOptions.level = "DEBUG"
      ∧ load selfJump .traced journal = .ok (loaded selfJump .traced journal)
      ∧ ((loaded selfJump .traced journal).run 2).1.journal.console.text
        = (loaded selfJump .traced journal).journal.console.text
          ++ Log.unlines ["[   DEBUG][Machine] 0x200: 1200  JP 0x200",
            "[   DEBUG][Machine] 0x200: 1200  JP 0x200"]
      ∧ load #[] .traced journal = .ok (loaded #[] .traced journal)
      ∧ ((loaded #[] .traced journal).run 2).1.journal.console.text
        = (loaded #[] .traced journal).journal.console.text
          ++ Log.unlines ["[   ERROR][Machine] UnimplementedInstruction: "
            ++ "Unimplemented instruction 0x0000 at 0x200"] := by
  intro journal
  have hupper : Text.upper plainOptions.level = "DEBUG" := by decide +kernel
  have hjump : load selfJump .traced journal = .ok (loaded selfJump .traced journal) :=
    load_eq_ok_iff.2 ⟨by decide, rfl⟩
  have hempty : load #[] .traced journal = .ok (loaded #[] .traced journal) :=
    load_eq_ok_iff.2 ⟨by decide, rfl⟩
  refine ⟨hupper, hjump, ?_, hempty, ?_⟩
  · obtain ⟨k, hsteps, -, ⟨htext, -⟩, -⟩ := run_transcript rfl hjump rfl hupper rfl (Or.inr rfl) 2
    obtain ⟨hreturn, hcount⟩ := run_loaded_selfJump .traced journal (n := 2) (by decide)
    have hend : ((loaded selfJump .traced journal).run 2).2 = none := hreturn
    have hzero : (loaded selfJump .traced journal).steps = 0 := rfl
    obtain rfl : k = 2 := by
      rw [hzero, Nat.zero_add] at hsteps
      exact hsteps.symm.trans hcount
    rw [htext, hend]
    simp only [after_loaded_selfJump, traceLine_loaded_selfJump]
    rfl
  · obtain ⟨k, hsteps, -, ⟨htext, -⟩, -⟩ := run_transcript rfl hempty rfl hupper rfl (Or.inr rfl) 2
    have hrun := run_eq_report (k := 2) (step_outcome_loaded_empty .traced journal) (by decide)
      (by decide)
    have hline : Fault.line (.unimplemented 0 0x200)
        = "[   ERROR][Machine] UnimplementedInstruction: "
          ++ "Unimplemented instruction 0x0000 at 0x200" := by
      decide +kernel
    obtain rfl : k = 0 := by
      rw [hrun, report_steps] at hsteps
      omega
    have hend : ((loaded #[] .traced journal).run 2).2
      = some (.fault (.unimplemented 0 0x200)) := by
      rw [hrun]
    rw [htext, hend, ← hline]
    rfl

end Machine

end Chip8
