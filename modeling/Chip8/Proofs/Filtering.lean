/-
What a logger leaves out leaves no trace.

A call whose level ranks below the threshold prints nothing and takes no reading of the
clock.  So it can be left out of a list of calls, and everything else is printed as it was,
times included.  Without times a line does not depend on what was printed before it, and a
logger with a higher threshold prints some of the lines that one with a lower threshold
prints.

* `Message.reaches` — whether a message is at least as important as a level;
* `Logger.logAll_filter` — messages that do not pass can be left out;
* `Logger.printed_logAll` — what is printed without times, one piece for each message;
* `Logger.filtered_calls_leave_no_trace` — both for loggers that are opened with any
  settings.

Design notes: the text of a message may hold line breaks of its own, so what is counted as a
line here is all that one call prints.
-/
import Chip8.Proofs.Lines

namespace Chip8.Log

/-- Whether a message is at least as important as a level. -/
def Message.reaches (m : Message) (level : String) : Bool :=
  rankOf level ≤ rankOf m.level

theorem rankOf_of_upper {text : String} {level : Level} (h : Text.upper text = level.name) :
    rankOf text = level.rank := by
  rw [rankOf, h, rankOfName_name]

theorem rankOf_of_unknown {text : String} (h : ∀ level : Level, Text.upper text ≠ level.name) :
    rankOf text = 1 :=
  rankOfName_of_unknown fun level => (h level).symm

namespace Logger

variable {logger : Logger}

theorem logAll_cons (logger : Logger) (m : Message) (messages : List Message) (console : Console) :
    logger.logAll (m :: messages) console
      = logger.logAll messages (logger.log m.level m.text console) := rfl

theorem log_of_not_passes {level : String} (h : ¬ logger.passes level = true) (text : String)
    (console : Console) : logger.log level text console = console := by
  rw [log, if_neg h]

/-- Messages that do not pass can be left out: text and clock are the same. -/
theorem logAll_filter (logger : Logger) (messages : List Message) (console : Console) :
    logger.logAll (messages.filter fun m => logger.passes m.level) console
      = logger.logAll messages console := by
  induction messages generalizing console with
  | nil => rfl
  | cons m messages ih =>
    rw [List.filter_cons, logAll_cons]
    by_cases hpass : logger.passes m.level = true
    · rw [if_pos hpass, logAll_cons, ih]
    · -- the next message finds the console, and so the clock, as this one has found it
      rw [if_neg hpass, log_of_not_passes hpass, ih]

theorem printed_log (hstamps : logger.timestamps = false) {level : String}
    (h : logger.passes level = true) (text : String) (console : Console) :
    (logger.log level text console).printed.toList
      = console.printed.toList ++ [logger.body level text] := by
  have hlog : logger.log level text console = console.print (logger.body level text) := by
    rw [log, if_pos h, hstamps, if_neg Bool.false_ne_true]
  rw [hlog, Console.print, Array.toList_push]

/-- What a logger without times prints: a piece for each message that passes. -/
theorem printed_logAll (hstamps : logger.timestamps = false) (messages : List Message)
    (console : Console) :
    (logger.logAll messages console).printed.toList
      = console.printed.toList
        ++ (messages.filter fun m => logger.passes m.level).map fun m =>
          logger.body m.level m.text := by
  induction messages generalizing console with
  | nil => exact (List.append_nil _).symm
  | cons m messages ih =>
    rw [logAll_cons, ih, List.filter_cons]
    by_cases hpass : logger.passes m.level = true
    · rw [if_pos hpass, printed_log hstamps hpass, List.map_cons, List.append_assoc,
        List.singleton_append]
    · rw [if_neg hpass, log_of_not_passes hpass]

/-! ### Loggers that are opened -/

section Opened

variable (options : Options) (console : Console)

/-- The threshold is the level in capitals, which has the rank of the level. -/
theorem rankOfName_threshold_create :
    rankOfName (create options console).1.threshold = rankOf options.level := rfl

theorem filter_passes_create (messages : List Message) :
    (messages.filter fun m => (create options console).1.passes m.level)
      = messages.filter fun m => m.reaches options.level := by
  apply List.filter_congr
  intro m _
  rw [passes, rankOfName_threshold_create, Message.reaches]

/-- What reaches the higher of two levels reaches the lower one. -/
theorem filter_reaches_filter {level level' : String} (h : rankOf level ≤ rankOf level')
    (messages : List Message) :
    (messages.filter fun m => m.reaches level).filter (fun m => m.reaches level')
      = messages.filter fun m => m.reaches level' := by
  rw [List.filter_filter]
  apply List.filter_congr
  intro m _
  -- only a message that reaches the higher level has anything to show
  cases hreach : m.reaches level' with
  | true =>
    have hle : rankOf level' ≤ rankOf m.level := of_decide_eq_true hreach
    exact decide_eq_true (h.trans hle)
  | false => rfl

/-- The level of a logger does not show in its lines. -/
theorem body_create (level : String) {console' : Console}
    (hterminal : console'.isTerminal = console.isTerminal) (m : Message) :
    (create { options with level } console').1.body m.level m.text
      = (create options console).1.body m.level m.text := by
  have hcolors : (create { options with level } console').1.colors
      = (create options console).1.colors := by
    show (options.colors && console'.isTerminal) = (options.colors && console.isTerminal)
    rw [hterminal]
  have hcolorOf : (create { options with level } console').1.colorOf
      = (create options console).1.colorOf := by
    funext code
    rw [colorOf, colorOf, hcolors]
  have hname : (create { options with level } console').1.name
      = (create options console).1.name := rfl
  rw [body, body, entry, entry, hcolorOf, hname]

end Opened

/-- **What a logger leaves out leaves no trace.**  The levels rank from 0 to 4 in letters of
any case, and all other names rank 1.  A call that ranks below the level of a logger prints
nothing and takes no reading of the clock, so a list of calls leaves the console behind that
it leaves without these calls.  Of two loggers without times that differ in their levels, the
one of the higher level prints the lines of those calls of the other that reach it. -/
theorem filtered_calls_leave_no_trace (options : Options) (console : Console)
    (messages : List Message) :
    (∀ (text : String) (level : Level), Text.upper text = level.name → rankOf text = level.rank)
      ∧ (∀ text : String, (∀ level : Level, Text.upper text ≠ level.name) → rankOf text = 1)
      ∧ (let logger := (create options console).1
        let opened := (create options console).2
        let printed := messages.filter fun m => m.reaches options.level
        let line (m : Message) := logger.body m.level m.text
        (∀ m : Message, rankOf m.level < rankOf options.level →
          ∀ c : Console, logger.log m.level m.text c = c)
        ∧ logger.logAll messages opened = logger.logAll printed opened
        ∧ (options.timestamps = false →
          (logger.logAll messages opened).printed.toList
            = opened.printed.toList ++ printed.map line
          ∧ ∀ (level : String) (console' : Console), rankOf options.level ≤ rankOf level →
            console'.isTerminal = console.isTerminal →
            let stricter := create { options with level } console'
            (stricter.1.logAll messages stricter.2).printed.toList
              = stricter.2.printed.toList
                ++ (printed.filter fun m => m.reaches level).map line)) := by
  refine ⟨fun text level => rankOf_of_upper, fun text => rankOf_of_unknown, ?_⟩
  intro logger opened printed line
  have hprinted : (messages.filter fun m => logger.passes m.level) = printed :=
    filter_passes_create options console messages
  have hthreshold : rankOfName logger.threshold = rankOf options.level :=
    rankOfName_threshold_create options console
  refine ⟨?_, ?_, ?_⟩
  · intro m hrank c
    rw [← hthreshold] at hrank
    exact log_of_lt hrank m.text c
  · rw [← logAll_filter logger messages, hprinted]
  · intro hstamps
    refine ⟨?_, ?_⟩
    · rw [printed_logAll hstamps, hprinted]
    · intro level console' hlevel hterminal stricter
      have hstricter : (messages.filter fun m => stricter.1.passes m.level)
          = printed.filter fun m => m.reaches level := by
        rw [filter_reaches_filter hlevel]
        exact filter_passes_create { options with level } console' messages
      have hline (m : Message) : stricter.1.body m.level m.text = line m :=
        body_create options console level hterminal m
      have hstamps' : stricter.1.timestamps = false := hstamps
      rw [printed_logAll hstamps', hstricter]
      simp only [hline]

/-- A logger of the level `warning`, without times. -/
def warningOptions : Options where
  name := "Machine"
  level := "warning"
  timestamps := false

/-- Three calls, of which a logger of the level `warning` prints two and one of the level
`Error` prints one. -/
theorem filtered_calls_leave_no_trace_threeCalls :
    let console : Console := { clock := Clock.stopped 0 }
    let messages : List Message := [⟨"Warning", "low"⟩, ⟨"notice", "odd"⟩, ⟨"eRRor", "bad"⟩]
    let opened := create warningOptions console
    let stricter := create { warningOptions with level := "Error" } console
    rankOf "eRRor" = 3
      ∧ rankOf "notice" = 1
      ∧ opened.1.log "notice" "odd" opened.2 = opened.2
      ∧ rankOf "warning" ≤ rankOf "Error"
      ∧ (opened.1.logAll messages opened.2).printed.toList
        = ["[ Warning][Machine] low\n", "[   eRRor][Machine] bad\n"]
      ∧ (stricter.1.logAll messages stricter.2).printed.toList
        = ["[   eRRor][Machine] bad\n"] := by
  intro console messages opened stricter
  obtain ⟨hknown, hunknown, hquiet, -, hlines⟩ :=
    filtered_calls_leave_no_trace warningOptions console messages
  obtain ⟨hopened, hstricter⟩ := hlines rfl
  have herror : rankOf "eRRor" = 3 := hknown "eRRor" .error (by decide +kernel)
  have hnotice : rankOf "notice" = 1 := by
    apply hunknown
    intro level
    cases level <;> decide +kernel
  have hwarning : rankOf "warning" = 2 := hknown "warning" .warning (by decide +kernel)
  have hbelow : rankOf "notice" < rankOf "warning" := by
    rw [hnotice, hwarning]
    decide
  have hle : rankOf "warning" ≤ rankOf "Error" := by
    rw [hwarning, hknown "Error" .error (by decide +kernel)]
    decide
  refine ⟨herror, hnotice, hquiet ⟨"notice", "odd"⟩ hbelow opened.2, hle, ?_, ?_⟩
  · rw [hopened]
    decide +kernel
  · rw [hstricter "Error" console hle rfl]
    decide +kernel

end Logger

end Chip8.Log
