/-
The report of a session, from the program's file to the last screen.

A session that loads its program prints where it was placed, one line for each traced
instruction, the fault that has stopped the run and how far it came, and the screen.  Lines
below the threshold of its settings are left out, and nothing else is:

* `loadMessage`, `State.traceMessage`, `Fault.report`, `stopMessage` — what a session has to
  say;
* `Machine.Logged.step`, `Machine.Healthy.runFor_logged` — what a step and a run report;
* `Machine.Healthy.runFor_longest` — and how far a run comes;
* `Session.run_of_not_fits`, `Session.run_of_loaded`, `Session.exists_conclude` — the stages of
  a session;
* `Session.run_report` — what a session prints and returns, for every program, number of
  instructions and settings;
* `Session.long_session_returns_no_machine` — a session that asks for more instructions than
  a run can count ends without a machine.

Design notes: a run is described by the number of instructions that it has carried out and
by its fault, and its messages are read off the states of the core.  The counter of steps
tells that number, so the longest run without a fault and the messages belong together.
-/
import Chip8.Proofs.Lines
import Chip8.Proofs.Drafts
import Chip8.Session

namespace Chip8

/-! ### Messages -/

/-- That a program of some size was loaded.  An empty one is shown like a single byte. -/
def loadMessage (size : Nat) : Log.Message where
  level := Log.Level.info.name
  text := "Loaded " ++ (size : Int).repr ++ " byte ROM at 0x" ++ Text.hex 3 programStart ++ "-0x"
    ++ Text.hex 3 (programStart + max (size : Int) 1 - 1)

/-- The trace of the instruction that a state is about to carry out. -/
def State.traceMessage (s : State) : Log.Message where
  level := Log.Level.debug.name
  text := "0x" ++ Text.hex 3 s.pc.toNat ++ ": " ++ Text.hex 4 s.word ++ "  " ++ disassemble s.word

/-- That a step has failed. -/
def Fault.report (f : Fault) : Log.Message where
  level := Log.Level.error.name
  text := f.name ++ ": " ++ f.message

/-- How far a run came that was stopped. -/
def stopMessage (steps : Nat) : Log.Message where
  level := Log.Level.warning.name
  text := "Stopped after " ++ Nat.repr steps ++ " instructions"

namespace Log

/-- A message with a level and a text that have no line breaks. -/
def Message.Single (m : Message) : Prop :=
  Text.SingleLine m.level ∧ Text.SingleLine m.text

theorem Level.singleLine_name (level : Level) : Text.SingleLine level.name := by
  cases level <;> decide

theorem Journal.console_report (j : Journal) (level : Level) (text : String) :
    (j.report level text).console = j.logger.logAll [⟨level.name, text⟩] j.console := rfl

end Log

theorem Log.Journal.console_recordFault (j : Journal) (f : Fault) :
    (j.recordFault f).console = j.logger.logAll [f.report] j.console := rfl

theorem single_loadMessage (size : Nat) : (loadMessage size).Single := by
  have hhex := Text.singleLine_hex
  have hsize : Text.SingleLine (size : Int).repr := Text.singleLine_repr size
  exact ⟨Log.Level.singleLine_name .info, ((((Text.SingleLine.append (by decide) hsize).append
    (by decide)).append (hhex _ _)).append (by decide)).append (hhex _ _)⟩

theorem State.single_traceMessage (s : State) : s.traceMessage.Single :=
  ⟨Log.Level.singleLine_name .debug, s.singleLine_traceLine.of_append_right⟩

theorem Fault.single_report (f : Fault) : f.report.Single :=
  ⟨Log.Level.singleLine_name .error, f.singleLine_line.of_append_right⟩

theorem single_stopMessage (steps : Nat) : (stopMessage steps).Single :=
  ⟨Log.Level.singleLine_name .warning,
    (Text.SingleLine.append (by decide) (Text.singleLine_repr steps)).append (by decide)⟩

namespace Machine

/-! ### What a run reports -/

/-- The messages of a run that has carried out so many instructions. -/
def messages (m : Machine) (k : Nat) (fault : Option Fault) : List Log.Message :=
  (if m.config.tracing then (List.range k).map (fun i => (m.state.after i).traceMessage) else [])
    ++ fault.toList.map Fault.report

theorem messages_succ (m : Machine) (k : Nat) :
    m.messages (k + 1) none
      = m.messages k none
        ++ (if m.config.tracing then [(m.state.after k).traceMessage] else []) := by
  cases htracing : m.config.tracing with
  | true => simp [messages, htracing, List.range_succ]
  | false => simp [messages, htracing]

theorem messages_some (m : Machine) (k : Nat) (f : Fault) :
    m.messages k (some f) = m.messages k none ++ [f.report] := by
  simp [messages]

theorem console_commit (m : Machine) :
    m.commit.journal.console
      = m.journal.logger.logAll (if m.config.tracing then [m.state.traceMessage] else [])
        m.journal.console := by
  show (if m.config.tracing then _ else m.journal : Log.Journal).console = _
  cases m.config.tracing with
  | true => rfl
  | false => rfl

/-- That a run has carried out so many instructions, has printed its messages and nothing
else, and was stopped by a fault of the state it has come to, if by any. -/
structure Logged (m : Machine) (k : Nat) (r : Machine × Option Fault) : Prop where
  steps : r.1.steps = m.steps + k
  state : r.1.state = m.state.after k
  config : r.1.config = m.config
  logger : r.1.journal.logger = m.journal.logger
  console : r.1.journal.console = m.journal.logger.logAll (m.messages k r.2) m.journal.console
  cause : ∀ f, r.2 = some f → advance r.1.state = .error f

variable {m c : Machine} {k : Nat}

theorem logged_zero (m : Machine) : m.Logged 0 (m, none) where
  steps := rfl
  state := rfl
  config := rfl
  logger := rfl
  console := by
    have hnone : m.messages 0 none = [] := by simp [messages]
    rw [hnone]
    rfl
  cause f h := absurd h (by simp)

/-- A run that goes on by one step reports that step. -/
theorem Logged.step (h : m.Logged k (c, none)) (hc : c.Healthy) : ∃ l, m.Logged l c.step := by
  have hsteps : c.steps = m.steps + k := h.steps
  have hstate : c.state = m.state.after k := h.state
  have hconfig : c.config = m.config := h.config
  have hlogger : c.journal.logger = m.journal.logger := h.logger
  have hconsole : c.journal.console
      = m.journal.logger.logAll (m.messages k none) m.journal.console := h.console
  rcases step_cases hc.fault with ⟨hfits, -, hstep⟩ | ⟨f, hadv, hstep⟩
  · refine ⟨k + 1, ?_, ?_, ?_, ?_, ?_, ?_⟩
    · rw [hstep, commit_steps, hsteps, Nat.add_assoc]
    · rw [hstep, State.after_succ, ← hstate, State.step_of_fits hc.fault hfits, commit_state]
    · rw [hstep, commit_config, hconfig]
    · rw [step_logger, hlogger]
    · rw [hstep, console_commit, hconsole, hlogger, hconfig, hstate, messages_succ,
        Log.Logger.logAll_append]
    · rw [hstep]
      exact fun f hf => absurd hf (by simp)
  · -- the step that fails reports its fault, and nothing for its instruction
    refine ⟨k, ?_, ?_, ?_, ?_, ?_, ?_⟩
    · rw [hstep, report_steps, hsteps]
    · rw [hstep, report_state, hstate]
    · rw [hstep, report_config, hconfig]
    · rw [step_logger, hlogger]
    · rw [hstep, messages_some, Log.Logger.logAll_append, ← hconsole, ← hlogger]
      rfl
    · rw [hstep, report_state]
      rintro g ⟨⟩
      exact hadv

theorem Healthy.runFor_logged (hm : m.Healthy) (n : Nat) : ∃ k, m.Logged k (runFor n m) := by
  induction n with
  | zero => exact ⟨0, logged_zero m⟩
  | succ n ih =>
    obtain ⟨k, hk⟩ := ih
    have hhealthy : (runFor n m).1.Healthy := runFor_invariant (fun _ => Healthy.step) n hm
    rw [runFor_succ_last]
    cases hend : runFor n m with
    | mk c fault =>
      rw [hend] at hk hhealthy
      cases fault with
      | none => exact hk.step hhealthy
      | some f => exact ⟨k, hk⟩

/-- **A run comes as far as it can**, reports what it has done, and returns if it has carried
out all its instructions. -/
theorem Healthy.runFor_longest (hm : m.Healthy) (n : Nat) :
    ∃ k, IsGreatest (healthyUpTo m.state n) k ∧ m.Logged k (runFor n m)
      ∧ ((runFor n m).2 = none ↔ k = n) := by
  obtain ⟨k, hk⟩ := exists_isGreatest_healthyUpTo hm.fault n
  obtain ⟨l, hl⟩ := hm.runFor_logged n
  have hend : (runFor n m).1.steps = m.steps + k ∧ ((runFor n m).2 = none ↔ k = n) := by
    rcases Nat.lt_or_ge k n with hlt | hge
    · have hfault := fault_after_isGreatest hk hlt
      obtain ⟨-, hsteps, f, hf, -⟩ := runFor_of_fault hlt hk.1.2 hfault
      rw [hf]
      exact ⟨hsteps, by simp [hlt.ne]⟩
    · obtain rfl : k = n := le_antisymm hk.1.1 hge
      obtain ⟨hnone, -, hsteps⟩ := runFor_of_healthy hk.1.2
      exact ⟨hsteps, by simp [hnone]⟩
  -- the counter of steps has gone up by both numbers
  obtain rfl : l = k := Nat.add_left_cancel (hl.steps.symm.trans hend.1)
  exact ⟨l, hk, hl, hend.2⟩

end Machine

/-! ### The stages of a session -/

/-- The lines that a machine of some settings, set up on a console, prints for messages. -/
def Settings.lines (settings : Settings) (console : Log.Console) (messages : List Log.Message) :
    List String :=
  (settings.journal console).logger.lines console.now.2.clock
    (messages.filter fun m => Log.rankOf settings.logLevel ≤ Log.rankOf m.level)

theorem Settings.text_logAll (settings : Settings) (console : Log.Console)
    (messages : List Log.Message) :
    ((settings.journal console).logger.logAll messages (settings.journal console).console).text
      = console.text ++ Log.unlines (settings.lines console messages) :=
  Log.Logger.text_logAll _ _ _

theorem Settings.singleLine_of_mem_lines {settings : Settings} {console : Log.Console}
    {messages : List Log.Message} (h : ∀ m ∈ messages, m.Single) {line : String}
    (hline : line ∈ settings.lines console messages) : Text.SingleLine line := by
  obtain ⟨i, hi, rfl⟩ := List.mem_mapIdx.1 hline
  have hm := h _ (List.mem_of_mem_filter (List.getElem_mem hi))
  have hname : Text.SingleLine "Machine" := by decide
  exact Log.Logger.singleLine_line hname hm.1 hm.2 _

theorem State.load?_of_lt {rom : Array Byte} (h : memorySize < programStart + rom.size) :
    load? rom = .error (.outOfRange (0x200 + rom.size - 1) none) := by
  have hlast : ((programStart + rom.size : Nat) - 1 : Int) = 0x200 + rom.size - 1 := by
    rw [Int.natCast_add]
    rfl
  rw [load?, if_neg (Nat.not_le.2 h), hlast]

theorem Machine.load_of_lt {rom : Array Byte} (h : memorySize < programStart + rom.size)
    (config : Config) (journal : Log.Journal) :
    load rom config journal = .error (.outOfRange (0x200 + rom.size - 1) none,
      journal.recordFault (.outOfRange (0x200 + rom.size - 1) none)) := by
  rw [load, State.load?_of_lt h]

/-- The machine that starts a program, set up by some settings on a console. -/
def Settings.machine (settings : Settings) (bar : Bar) (rom : Array Byte)
    (console : Log.Console) : Machine :=
  Machine.loaded rom (settings.machineConfig bar) (settings.journal console)

theorem Settings.console_machine (settings : Settings) (bar : Bar) (rom : Array Byte)
    (console : Log.Console) :
    (settings.machine bar rom console).journal.console
      = (settings.journal console).logger.logAll [loadMessage rom.size]
        (settings.journal console).console :=
  Log.Journal.console_report _ _ _

namespace Session

variable {session : Session} {host : Host} {settings : Settings} {rom : Array Byte}

/-- A program that does not fit is reported, and that is all. -/
theorem run_of_not_fits (hsettings : session.settings host = .ok settings)
    (hrom : host.files.read session.rom = .ok rom) (hsize : memorySize < programStart + rom.size)
    (console : Log.Console) :
    session.run host console
      = { console := ((settings.journal console).recordFault
            (.outOfRange (0x200 + rom.size - 1) none)).console
          result := .error (.fault (.outOfRange (0x200 + rom.size - 1) none)) } := by
  have hstart : session.start host console
      = .error (.fault (.outOfRange (0x200 + rom.size - 1) none),
        ((settings.journal console).recordFault
          (.outOfRange (0x200 + rom.size - 1) none)).console) := by
    rw [start, hsettings]
    dsimp only
    rw [hrom]
    dsimp only
    rw [Machine.load_of_lt hsize]
  rw [run, hstart]

/-- A program that fits is run, and what is left is to save the screen. -/
theorem run_of_loaded (hsettings : session.settings host = .ok settings)
    (hrom : host.files.read session.rom = .ok rom) {steps : Int}
    (hsteps : session.steps = some steps) (hsize : programStart + rom.size ≤ memorySize)
    (console : Log.Console) :
    session.run host console
      = match conclude ((settings.machine host.bar rom console).run steps) with
        | .ok m => session.save host m
        | .error e =>
          { console := (settings.machine host.bar rom console).journal.console
            result := .error e } := by
  have hstart : session.start host console = .ok (settings.machine host.bar rom console) := by
    rw [start, hsettings]
    dsimp only
    rw [hrom]
    dsimp only
    rw [Machine.load_eq_ok_iff.2 ⟨hsize, rfl⟩]
    rfl
  rw [run, hstart]
  dsimp only
  rw [play, hsteps]
  dsimp only
  cases conclude ((settings.machine host.bar rom console).run steps) with
  | ok m => rfl
  | error e => rfl

theorem save_of_no_image (himage : session.image = none ∨ session.image = some "")
    (host : Host) (m : Machine) :
    session.save host m = { console := m.journal.console, result := .ok m } := by
  rcases himage with himage | himage
  · rw [save, himage]
  · rw [save, himage]
    rfl

/-- A program that fits is run, and nothing is saved if no image is asked for. -/
theorem run_of_fits (hsettings : session.settings host = .ok settings)
    (hrom : host.files.read session.rom = .ok rom) {steps : Int}
    (hsteps : session.steps = some steps) (himage : session.image = none ∨ session.image = some "")
    (hsize : programStart + rom.size ≤ memorySize) (console : Log.Console) :
    session.run host console
      = match conclude ((settings.machine host.bar rom console).run steps) with
        | .ok m => { console := m.journal.console, result := .ok m }
        | .error e =>
          { console := (settings.machine host.bar rom console).journal.console
            result := .error e } := by
  rw [run_of_loaded hsettings hrom hsteps hsize]
  simp only [save_of_no_image himage]

/-- A run that is stopped by a fault is concluded like one that returns, but for a message. -/
theorem exists_conclude (c : Machine) (fault : Option Fault) :
    ∃ m, conclude (c, fault.map .fault) = .ok m ∧ m.state = c.state ∧ m.steps = c.steps
      ∧ m.journal.console.text
        = (c.journal.logger.logAll (fault.toList.map fun _ => stopMessage c.steps)
          c.journal.console).text ++ Log.unlines c.state.display.lines := by
  cases fault with
  | none =>
    refine ⟨printScreen c, rfl, rfl, rfl, ?_⟩
    rw [printScreen, Log.Console.text_print, Display.unlines_lines]
    rfl
  | some f =>
    refine ⟨printScreen (reportStop c), rfl, rfl, rfl, ?_⟩
    rw [printScreen, Log.Console.text_print, Display.unlines_lines]
    rfl

/-! ### What a session prints and returns -/

/-- All that a session has to say that has carried out so many instructions. -/
def messages (rom : Array Byte) (trace : Bool) (k : Nat) (fault : Option Fault) :
    List Log.Message :=
  let s : State := { memory := Memory.image rom }
  loadMessage rom.size
    :: ((if trace then (List.range k).map fun i => (s.after i).traceMessage else [])
      ++ fault.toList.flatMap fun f => [f.report, stopMessage k])

theorem single_of_mem_messages {trace : Bool} {k : Nat} {fault : Option Fault} {m : Log.Message}
    (h : m ∈ messages rom trace k fault) : m.Single := by
  rw [messages, List.mem_cons, List.mem_append] at h
  rcases h with rfl | h | h
  · exact single_loadMessage _
  · cases trace with
    | true =>
      obtain ⟨i, -, rfl⟩ := List.mem_map.1 h
      exact State.single_traceMessage _
    | false => exact absurd h List.not_mem_nil
  · obtain ⟨f, -, h⟩ := List.mem_flatMap.1 h
    rcases List.mem_cons.1 h with rfl | h
    · exact Fault.single_report f
    · rw [List.mem_singleton.1 h]
      exact single_stopMessage k

/-- The messages of a session are those of its stages. -/
theorem messages_eq_append (settings : Settings) (bar : Bar) (rom : Array Byte)
    (console : Log.Console) (k : Nat) (fault : Option Fault) :
    messages rom settings.trace k fault
      = [loadMessage rom.size] ++ (settings.machine bar rom console).messages k fault
        ++ fault.toList.map fun _ => stopMessage k := by
  have hstop : (fault.toList.flatMap fun f => [f.report, stopMessage k])
      = fault.toList.map Fault.report ++ fault.toList.map fun _ => stopMessage k := by
    cases fault with
    | none => rfl
    | some f => rfl
  rw [messages, Machine.messages, hstop, List.singleton_append, List.cons_append,
    List.append_assoc]
  rfl

/-- What comes of the run of a program that was loaded, if it can be counted. -/
theorem exists_conclude_run (settings : Settings) (bar : Bar) (rom : Array Byte)
    (console : Log.Console) {steps : Int} (h : steps ≤ Machine.runLimit) :
    let start := settings.machine bar rom console
    ∃ m k fault, IsGreatest (Machine.healthyUpTo start.state steps.toNat) k
      ∧ conclude (start.run steps) = .ok m
      ∧ m.state = start.state.after k ∧ m.steps = k
      ∧ (fault = none ↔ k = steps.toNat)
      ∧ (∀ f, fault = some f → Machine.advance m.state = .error f)
      ∧ m.journal.console.text = console.text
        ++ Log.unlines (settings.lines console (messages rom settings.trace k fault)
          ++ m.state.display.lines) := by
  intro start
  have hhealthy : start.Healthy := Machine.healthy_loaded _ _ _
  obtain ⟨k, hk, hlogged, hend⟩ := hhealthy.runFor_longest steps.toNat
  obtain ⟨m, hm, hstate, hsteps, htext⟩ := exists_conclude (Machine.runFor steps.toNat start).1
    (Machine.runFor steps.toNat start).2
  have hlogger : start.journal.logger = (settings.journal console).logger := rfl
  have hcount : (Machine.runFor steps.toNat start).1.steps = k :=
    hlogged.steps.trans (Nat.zero_add k)
  refine ⟨m, k, (Machine.runFor steps.toNat start).2, hk, ?_, ?_, ?_, hend, ?_, ?_⟩
  · rw [Machine.run_of_le h]
    exact hm
  · rw [hstate, hlogged.state]
  · rw [hsteps, hcount]
  · rw [hstate]
    exact hlogged.cause
  · -- what the stages of the session have printed, one after the other
    rw [htext, hcount, hlogged.logger, hlogged.console, settings.console_machine, hlogger, hstate,
      ← Log.Logger.logAll_append, ← Log.Logger.logAll_append, settings.text_logAll,
      messages_eq_append settings bar rom console, Log.unlines_append, String.append_assoc,
      List.append_assoc]

/-- **What a session prints and returns.**  Let the settings load, in whatever way the host loads
them, let the file of the program be there, and let no image be asked for.

A program that does not fit ends the session with its fault, of which a line is printed if its
level passes.  Else let `k` be the largest number of instructions, up to the number asked for,
that the core carries out without a fault.  The session returns the machine after these, and
prints the lines of its messages whose level passes, and then the screen: that the program was
loaded, the trace of each instruction if there is one, and, exactly if `k` is less than was
asked for, the fault that has stopped the run and the number `k`.  More instructions than a
run can count are refused, after the program was loaded. -/
theorem run_report {steps : Int} (hsettings : session.settings host = .ok settings)
    (hrom : host.files.read session.rom = .ok rom) (hsteps : session.steps = some steps)
    (himage : session.image = none ∨ session.image = some "") (console : Log.Console) :
    let s : State := { memory := Memory.image rom }
    let tooLarge : Fault := .outOfRange (0x200 + rom.size - 1) none
    let report := session.run host console
    (4095 < 0x200 + rom.size →
        report.result = .error (.fault tooLarge)
        ∧ report.console.text
          = console.text ++ Log.unlines (settings.lines console [tooLarge.report]))
      ∧ (0x200 + rom.size ≤ 4095 → steps ≤ Machine.runLimit →
        ∃ m k fault, report.result = .ok m
          ∧ IsGreatest {k | k ≤ steps.toNat ∧ ∀ i ≤ k, (s.after i).fault = FaultCode.none} k
          ∧ m.state = s.after k ∧ m.steps = k
          ∧ (fault = none ↔ k = steps.toNat)
          ∧ (∀ f, fault = some f → Machine.advance m.state = .error f)
          ∧ (let lines := settings.lines console (messages rom settings.trace k fault)
              ++ m.state.display.lines
            report.console.text = console.text ++ Log.unlines lines
              ∧ ∀ line ∈ lines, Text.SingleLine line))
      ∧ (0x200 + rom.size ≤ 4095 → Machine.runLimit < steps →
        report.result = .error .tooLong
        ∧ report.console.text
          = console.text ++ Log.unlines (settings.lines console [loadMessage rom.size]))
      ∧ report.saved = none := by
  intro s tooLarge report
  refine ⟨fun hsize => ?_, fun hsize hlimit => ?_, fun hsize hlimit => ?_, ?_⟩
  · have hreport : report = { console := ((settings.journal console).recordFault tooLarge).console
                              result := .error (.fault tooLarge) } :=
      run_of_not_fits hsettings hrom hsize console
    refine ⟨congrArg Report.result hreport, ?_⟩
    rw [hreport, Log.Journal.console_recordFault, settings.text_logAll]
  · obtain ⟨m, k, fault, hk, hm, hstate, hcount, hend, hcause, htext⟩ :=
      exists_conclude_run settings host.bar rom console hlimit
    have hreport : report = { console := m.journal.console, result := .ok m } := by
      show session.run host console = _
      rw [run_of_fits hsettings hrom hsteps himage hsize console, hm]
    refine ⟨m, k, fault, congrArg Report.result hreport, hk, hstate, hcount, hend, hcause, ?_, ?_⟩
    · rw [hreport]
      exact htext
    · intro line hline
      rcases List.mem_append.1 hline with hline | hline
      · exact Settings.singleLine_of_mem_lines (fun _ => single_of_mem_messages) hline
      · obtain ⟨y, rfl⟩ := List.mem_ofFn.1 hline
        exact m.state.display.singleLine_line y
  · have hreport : report = { console := (settings.machine host.bar rom console).journal.console
                              result := .error .tooLong } := by
      show session.run host console = _
      rw [run_of_fits hsettings hrom hsteps himage hsize console, Machine.run_of_lt hlimit]
      rfl
    refine ⟨congrArg Report.result hreport, ?_⟩
    rw [hreport, settings.console_machine, settings.text_logAll]
  · show (session.run host console).saved = none
    by_cases hsize : programStart + rom.size ≤ memorySize
    · rw [run_of_fits hsettings hrom hsteps himage hsize console]
      split <;> rfl
    · rw [run_of_not_fits hsettings hrom (Nat.not_le.1 hsize) console]

/-- Settings that trace the instructions, without times. -/
def tracing : Settings where
  logLevel := "debug"
  showTimestamps := false
  trace := true

/-- A session with these settings. -/
def traced (steps : Int) : Session where
  rom := "rom"
  steps := some steps
  overrides := [("trace", .bool true), ("log_level", .text "debug"),
    ("show_timestamps", .bool false)]

/-- A host whose files all hold one program. -/
def hostOf (rom : Array Byte) : Host :=
  Host.ofFiles { read := fun _ => .ok rom, canWrite := fun _ => .ok () }

theorem load_traced (loader : Settings.Loader) (steps : Int) :
    Settings.load loader .null (traced steps).overrides = .ok tracing := by
  have hdraft : Settings.load loader .null (traced steps).overrides
      = (((Settings.Draft.default.set .trace (.value (.bool true))).set .logLevel
        (.value (.text "debug"))).set .showTimestamps (.value (.bool false))).finish := rfl
  rw [hdraft]
  exact Settings.Draft.Holds.finish fun field => by cases field <;> rfl

theorem settings_traced (steps : Int) (rom : Array Byte) :
    (traced steps).settings (hostOf rom) = .ok tracing := by
  have hkeys : ((traced steps).overrides.any (·.1 = "source")) = false := rfl
  show load .plain (hostOf rom).files .standard (traced steps).overrides = _
  rw [load, hkeys, if_neg Bool.false_ne_true, load_traced]
  rfl

theorem after_image_selfJump (n : Nat) :
    State.after { memory := Memory.image Machine.selfJump } n
      = { memory := Memory.image Machine.selfJump } :=
  Machine.after_loaded_selfJump .traced Machine.plainJournal n

theorem lines_messages_empty :
    tracing.lines Machine.plainConsole
        (messages #[] tracing.trace 0 (some (.unimplemented 0 0x200)))
      = ["[    INFO][Machine] Loaded 0 byte ROM at 0x200-0x200",
        "[   ERROR][Machine] UnimplementedInstruction: Unimplemented instruction 0x0000 at 0x200",
        "[ WARNING][Machine] Stopped after 0 instructions"] := by
  decide +kernel

theorem messages_selfJump :
    messages Machine.selfJump true 2 none
      = [loadMessage 2, ⟨"DEBUG", "0x200: 1200  JP 0x200"⟩,
        ⟨"DEBUG", "0x200: 1200  JP 0x200"⟩] := by
  have hword : State.word { memory := Memory.image Machine.selfJump } = 0x1200 :=
    Machine.word_loaded_selfJump .traced Machine.plainJournal
  have hmessage : State.traceMessage { memory := Memory.image Machine.selfJump }
      = ⟨"DEBUG", "0x200: 1200  JP 0x200"⟩ := by
    rw [State.traceMessage, hword]
    decide +kernel
  rw [messages]
  simp only [after_image_selfJump, hmessage]
  rfl

theorem lines_messages_selfJump :
    tracing.lines Machine.plainConsole (messages Machine.selfJump tracing.trace 2 none)
      = ["[    INFO][Machine] Loaded 2 byte ROM at 0x200-0x201",
        "[   DEBUG][Machine] 0x200: 1200  JP 0x200",
        "[   DEBUG][Machine] 0x200: 1200  JP 0x200"] := by
  rw [show tracing.trace = true from rfl, messages_selfJump]
  decide +kernel

/-- A program that jumps to itself is traced as often as was asked for, and an empty one ends
with its fault. -/
theorem run_report_selfJump :
    (traced 2).settings (hostOf Machine.selfJump) = .ok tracing
      ∧ ((traced 2).run (hostOf Machine.selfJump) Machine.plainConsole).console.text
        = Machine.plainConsole.text ++ Log.unlines ([
          "[    INFO][Machine] Loaded 2 byte ROM at 0x200-0x201",
          "[   DEBUG][Machine] 0x200: 1200  JP 0x200",
          "[   DEBUG][Machine] 0x200: 1200  JP 0x200"] ++ Display.blank.lines)
      ∧ ((traced 2).run (hostOf #[]) Machine.plainConsole).console.text
        = Machine.plainConsole.text ++ Log.unlines ([
          "[    INFO][Machine] Loaded 0 byte ROM at 0x200-0x200",
          "[   ERROR][Machine] UnimplementedInstruction: Unimplemented instruction 0x0000 at 0x200",
          "[ WARNING][Machine] Stopped after 0 instructions"] ++ Display.blank.lines) := by
  refine ⟨settings_traced 2 _, ?_, ?_⟩
  · obtain ⟨-, hrun, -⟩ := run_report (settings_traced 2 Machine.selfJump) rfl rfl
      (Or.inl rfl) Machine.plainConsole
    obtain ⟨m, k, fault, -, hk, hstate, -, hend, -, htext, -⟩ := hrun (by decide) (by decide)
    obtain rfl : k = 2 := by
      refine hk.unique ⟨⟨le_rfl, fun i _ => ?_⟩, fun j hj => hj.1⟩
      rw [after_image_selfJump]
    have hnone : fault = none := hend.2 rfl
    have hscreen : m.state.display = Display.blank := by
      rw [hstate, after_image_selfJump]
    rw [htext, hnone, hscreen, lines_messages_selfJump]
  · obtain ⟨-, hrun, -⟩ := run_report (settings_traced 2 #[]) rfl rfl
      (Or.inl rfl) Machine.plainConsole
    obtain ⟨m, k, fault, -, hk, hstate, -, hend, hcause, htext, -⟩ := hrun (by decide) (by decide)
    obtain rfl : k = 0 := hk.unique (Machine.isGreatest_empty 2)
    have hfault : fault = some (.unimplemented 0 0x200) := by
      have hstop : fault ≠ none := fun hnone => absurd (hend.1 hnone) (by decide)
      obtain ⟨f, rfl⟩ := Option.ne_none_iff_exists'.1 hstop
      have hadv : Machine.advance m.state = .error (.unimplemented 0 0x200) := by
        rw [hstate]
        exact Machine.advance_loaded_empty .traced Machine.plainJournal
      rw [hcause f rfl] at hadv
      rw [Except.error.inj hadv]
    have hscreen : m.state.display = Display.blank := by
      rw [hstate]
      rfl
    rw [htext, hfault, hscreen, lines_messages_empty]

/-- A session with more instructions than a run can count has a program that fits, and returns
no machine. -/
theorem long_session_returns_no_machine :
    (traced 0x8000000000000000).settings (hostOf #[]) = .ok tracing
      ∧ (hostOf #[]).files.read (traced 0x8000000000000000).rom = .ok #[]
      ∧ 0x200 + (#[] : Array Byte).size ≤ 4095
      ∧ ∀ m, ((traced 0x8000000000000000).run (hostOf #[]) Machine.plainConsole).result
        ≠ .ok m := by
  have hsettings := settings_traced 0x8000000000000000 #[]
  refine ⟨hsettings, rfl, by decide, fun m => ?_⟩
  have hlimit : (Machine.runLimit : Int) < 0x8000000000000000 := by decide
  rw [run_of_fits hsettings rfl rfl (Or.inl rfl) (by decide), Machine.run_of_lt hlimit]
  show Except.error Error.tooLong ≠ .ok m
  simp

end Session

end Chip8
