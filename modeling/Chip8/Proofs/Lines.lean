/-
What a logger prints are lines, and so is the screen.

A logger that is given some messages prints one line for each message that is important
enough, and nothing for the others.  The lines take the readings of the clock one after
the other, whatever was left out between them:

* `Log.Logger.text_logAll` — what a logger prints for some messages;
* `Log.Logger.singleLine_line` — a line is not broken, if its name, level and text are not;
* `Display.unlines_lines` — a screen is printed as lines, which are the rows of its pixels
  from the top: `Display.lines`.

Design notes: messages are left out first and their times are filled in afterwards.  That
a message which is not printed takes no reading is what makes this possible.  A logger
without time stamps reads no clock, and none of its lines shows a reading.
-/
import Chip8.Picture.Text
import Chip8.Proofs.Transcript

namespace Chip8

/-! ### Characters that a text lacks -/

namespace Text

theorem SingleLine.of_append_right {s t : String} (h : SingleLine (s ++ t)) : SingleLine t := by
  rw [SingleLine, String.toList_append, List.mem_append] at h
  exact fun ht => h (Or.inr ht)

theorem lacks_ofList {c : Char} {l : List Char} (h : ∀ x ∈ l, x ≠ c) :
    Lacks c (String.ofList l) := by
  rw [Lacks, String.toList_ofList]
  exact fun hmem => h _ hmem rfl

theorem ne_of_mem_toDigits {c x : Char} (hc : c.isDigit = false) {n : Nat}
    (h : x ∈ Nat.toDigits 10 n) : x ≠ c := by
  have hdigit : x.isDigit := Nat.isDigit_of_mem_toDigits (by decide) (by decide) h
  rintro rfl
  exact absurd hdigit (by simp [hc])

theorem lacks_repr {c : Char} (hc : c.isDigit = false) (n : Nat) : Lacks c (Nat.repr n) :=
  lacks_ofList fun _ => ne_of_mem_toDigits hc

theorem singleLine_repr (n : Nat) : SingleLine (Nat.repr n) :=
  lacks_repr (by decide) n

theorem lacks_padLeft {c : Char} (hc : c ≠ ' ') {s : String} (width : Nat) (h : Lacks c s) :
    Lacks c (Log.padLeft width s) := by
  refine Lacks.append (lacks_ofList fun x hx => ?_) h
  rw [List.eq_of_mem_replicate hx]
  exact hc.symm

/-- The characters of numbers, colours and brackets, other than digits. -/
def marks : List Char := "-.nanif s[]m\x1b".toList

theorem lacks_rounded {c : Char} (hdigit : c.isDigit = false) (hc : c ∉ marks) (places : Nat)
    (x : Float) : Lacks c (Decimal.rounded places x) := by
  have hdigits (n : Nat) : Lacks c (Decimal.padded places n) := by
    refine lacks_ofList fun y hy => ?_
    rcases List.mem_append.1 hy with hy | hy
    · rw [List.eq_of_mem_replicate hy]
      rintro rfl
      exact absurd hdigit (by decide)
    · exact ne_of_mem_toDigits hdigit hy
  have hsign : Lacks c (if Decimal.isNegative x then "-" else "") := by
    split
    · exact lacks_of_subset hc (by decide)
    · exact lacks_of_subset hc (by decide)
  have hpoint : Lacks c "." := lacks_of_subset hc (by decide)
  rw [Decimal.rounded]
  split
  · dsimp only
    split
    · exact hsign.append (lacks_repr hdigit _)
    · exact ((hsign.append (lacks_repr hdigit _)).append hpoint).append (hdigits _)
  · rw [Decimal.nonFiniteText]
    split
    · exact lacks_of_subset hc (by decide)
    · split
      · exact lacks_of_subset hc (by decide)
      · exact lacks_of_subset hc (by decide)

end Text

namespace Log

/-- Lines that are joined and then ended are the same as lines that are ended. -/
theorem ofList_intercalate_newline {lines : List String} (h : lines ≠ []) :
    String.ofList (['\n'].intercalate (lines.map String.toList)) ++ "\n" = unlines lines := by
  induction lines with
  | nil => exact absurd rfl h
  | cons line lines ih =>
    cases lines with
    | nil =>
      rw [unlines_singleton, List.map_singleton, List.intercalate_singleton, String.ofList_toList]
    | cons next lines =>
      have hmore := ih (List.cons_ne_nil next lines)
      rw [unlines, ← hmore, List.map_cons, List.map_cons, List.intercalate_cons_cons,
        String.ofList_append, String.ofList_append, String.ofList_toList, String.append_assoc]

/-! ### Messages and their lines -/

/-- What a logger is given to print. -/
structure Message where
  level : String
  text : String
deriving DecidableEq, Repr

namespace Logger

variable {logger : Logger}

/-- The console after some messages. -/
def logAll (logger : Logger) (messages : List Message) (console : Console) : Console :=
  messages.foldl (fun console m => logger.log m.level m.text console) console

theorem logAll_append (logger : Logger) (messages more : List Message) (console : Console) :
    logger.logAll (messages ++ more) console
      = logger.logAll more (logger.logAll messages console) :=
  List.foldl_append

/-- The line of a message at some time: the time if it is shown, the level in its colour,
the name of the logger, and the text. -/
def line (logger : Logger) (time : Float) (m : Message) : String :=
  (if logger.timestamps then logger.stamp time else "") ++ logger.entry m.level m.text

/-- The lines of some messages, each at the next reading of the clock. -/
def lines (logger : Logger) (clock : Clock) (messages : List Message) : List String :=
  messages.mapIdx fun i m => logger.line (clock.reading (clock.taken + i)) m

theorem lines_cons (logger : Logger) (clock : Clock) (m : Message) (messages : List Message) :
    logger.lines clock (m :: messages)
      = logger.line clock.read.1 m :: logger.lines clock.read.2 messages := by
  rw [lines, List.mapIdx_cons, lines]
  simp only [Clock.read, Nat.add_zero, Nat.add_assoc, Nat.add_comm 1]

theorem lines_of_no_timestamps (h : logger.timestamps = false) (clock clock' : Clock)
    (messages : List Message) : logger.lines clock messages = logger.lines clock' messages := by
  simp only [lines, line, h, Bool.false_eq_true, if_false]

theorem line_newline (logger : Logger) (time : Float) (m : Message) :
    logger.line time m ++ "\n"
      = (if logger.timestamps then logger.stamp time else "") ++ logger.body m.level m.text := by
  simp only [line, body, String.append_assoc]

theorem text_log {level : String} (h : logger.passes level = true) (text : String)
    (console : Console) :
    (logger.log level text console).text
      = console.text ++ (logger.line console.clock.read.1 ⟨level, text⟩ ++ "\n") := by
  rw [log, if_pos h, line_newline]
  cases logger.timestamps with
  | true => exact Console.text_print _ _
  | false =>
    rw [if_neg Bool.false_ne_true, if_neg Bool.false_ne_true, String.empty_append]
    exact Console.text_print _ _

/-- A line that is printed takes a reading, if it shows one. -/
theorem lines_log {level : String} (h : logger.passes level = true) (text : String)
    (console : Console) (messages : List Message) :
    logger.lines (logger.log level text console).clock messages
      = logger.lines console.clock.read.2 messages := by
  cases hstamps : logger.timestamps with
  | true =>
    rw [log, if_pos h, if_pos hstamps]
    rfl
  | false => exact lines_of_no_timestamps hstamps _ _ _

/-- **What a logger prints** are the lines of the messages that pass. -/
theorem text_logAll (logger : Logger) (messages : List Message) (console : Console) :
    (logger.logAll messages console).text
      = console.text ++ unlines
        (logger.lines console.clock (messages.filter fun m => logger.passes m.level)) := by
  induction messages generalizing console with
  | nil => exact String.append_empty.symm
  | cons m messages ih =>
    show (logger.logAll messages (logger.log m.level m.text console)).text = _
    rw [ih]
    cases hpass : logger.passes m.level with
    | true =>
      rw [List.filter_cons, if_pos hpass, lines_cons, unlines, text_log hpass, lines_log hpass,
        String.append_assoc]
    | false =>
      -- the console is as it was, and so is the clock
      have hsame : logger.log m.level m.text console = console := by
        rw [log, hpass, if_neg Bool.false_ne_true]
      rw [List.filter_cons, hpass, if_neg Bool.false_ne_true, hsame]

theorem lacks_stamp {c : Char} (hdigit : c.isDigit = false) (hc : c ∉ Text.marks)
    (logger : Logger) (time : Float) : Text.Lacks c (logger.stamp time) := by
  have hspace : c ≠ ' ' := by
    rintro rfl
    exact absurd hc (by decide)
  have hopen : Text.Lacks c "[" := Text.lacks_of_subset hc (by decide)
  have hclose : Text.Lacks c "s]" := Text.lacks_of_subset hc (by decide)
  exact (hopen.append (Text.lacks_padLeft hspace 8 (Text.lacks_rounded hdigit hc 2 _))).append
    hclose

theorem lacks_colorOf {c : Char} (hdigit : c.isDigit = false) (hc : c ∉ Text.marks)
    (logger : Logger) (name : String) : Text.Lacks c (logger.colorOf name) := by
  -- the number is all that differs between two codes
  have hcode (number : Nat) : Text.Lacks c ("\x1b[" ++ Nat.repr number ++ "m") := by
    have hopen : Text.Lacks c "\x1b[" := Text.lacks_of_subset hc (by decide)
    have hclose : Text.Lacks c "m" := Text.lacks_of_subset hc (by decide)
    exact (hopen.append (Text.lacks_repr hdigit number)).append hclose
  have htable : ∀ entry ∈ colorTable, ∃ number, entry.2 = "\x1b[" ++ Nat.repr number ++ "m" := by
    rw [colorTable, List.forall_mem_append, List.forall_mem_map, List.forall_mem_singleton]
    refine ⟨fun level _ => ?_, 0, rfl⟩
    cases level with
    | debug => exact ⟨36, rfl⟩
    | info => exact ⟨32, rfl⟩
    | warning => exact ⟨33, rfl⟩
    | error => exact ⟨31, rfl⟩
    | critical => exact ⟨35, rfl⟩
  rw [colorOf]
  split
  · rw [colorOfName]
    cases hlookup : colorTable.lookup name with
    | none => exact List.not_mem_nil
    | some code =>
      obtain ⟨before, after, hsplit, -⟩ := List.lookup_eq_some_iff.1 hlookup
      have hmem : (name, code) ∈ colorTable := by simp [hsplit]
      obtain ⟨number, rfl⟩ : ∃ number, code = "\x1b[" ++ Nat.repr number ++ "m" := htable _ hmem
      exact hcode number
  · exact List.not_mem_nil

/-- A line has no characters but those of its message and of its logger's name, and digits and
marks. -/
theorem lacks_line {c : Char} (hdigit : c.isDigit = false) (hc : c ∉ Text.marks) {m : Message}
    (hname : Text.Lacks c logger.name) (hlevel : Text.Lacks c m.level)
    (htext : Text.Lacks c m.text) (time : Float) : Text.Lacks c (logger.line time m) := by
  have hstamp : Text.Lacks c (if logger.timestamps then logger.stamp time else "") := by
    split
    · exact logger.lacks_stamp hdigit hc time
    · exact List.not_mem_nil
  have hcolor (name : String) := logger.lacks_colorOf hdigit hc name
  have hspace : c ≠ ' ' := by
    rintro rfl
    exact absurd hc (by decide)
  have hpad := Text.lacks_padLeft hspace 8 hlevel
  have hopen : Text.Lacks c "[" := Text.lacks_of_subset hc (by decide)
  have hclose : Text.Lacks c "]" := Text.lacks_of_subset hc (by decide)
  have hgap : Text.Lacks c "] " := Text.lacks_of_subset hc (by decide)
  have hentry : Text.Lacks c (logger.entry m.level m.text) :=
    ((((((((hcolor _).append hopen).append hpad).append hclose).append (hcolor _)).append
      hopen).append hname).append hgap).append htext
  exact hstamp.append hentry

theorem singleLine_line {m : Message} (hname : Text.SingleLine logger.name)
    (hlevel : Text.SingleLine m.level) (htext : Text.SingleLine m.text) (time : Float) :
    Text.SingleLine (logger.line time m) :=
  lacks_line (by decide) (by decide) hname hlevel htext time

end Logger

end Log

/-! ### The lines of the screen -/

namespace Display

/-- The row of a screen as it is printed, from left to right. -/
def line (d : Display) (y : Row) : String :=
  String.ofList (List.ofFn fun x : Column => if d.get x y then '█' else ' ')

/-- The rows of a screen as they are printed, from top to bottom. -/
def lines (d : Display) : List String :=
  List.ofFn d.line

theorem length_line (d : Display) (y : Row) : (d.line y).length = 64 := by
  rw [line, String.length_ofList, List.length_ofFn]

theorem length_lines (d : Display) : d.lines.length = 32 :=
  List.length_ofFn

theorem singleLine_line (d : Display) (y : Row) : Text.SingleLine (d.line y) := by
  refine Text.lacks_ofList fun c hc => ?_
  obtain ⟨x, rfl⟩ := List.mem_ofFn.1 hc
  split <;> decide

/-- The lines of the screen are those of its grid. -/
theorem textLines_ofDisplay (d : Display) :
    (Grid.ofDisplay d).textLines litCell darkCell = d.lines.map String.toList := by
  have hline (y : Row) : (Grid.ofDisplay d).textLine litCell darkCell y = (d.line y).toList := by
    have hcells : (fun x => (if (Grid.ofDisplay d).get x y then litCell else darkCell).toList)
        = (fun c => [c]) ∘ fun x => if d.get x y then '█' else ' ' := by
      funext x
      rw [Grid.get_ofDisplay, Function.comp_apply]
      cases d.get x y <;> rfl
    rw [Grid.textLine, hcells, ← List.map_ofFn, ← List.flatMap_def, List.flatMap_singleton', line,
      String.toList_ofList]
  rw [Grid.textLines, lines, List.map_ofFn]
  exact congrArg List.ofFn (funext hline)

/-- **The screen is printed line by line.** -/
theorem unlines_lines (d : Display) : d.render ++ "\n" = Log.unlines d.lines := by
  have hpos : d.lines ≠ [] := by
    intro h
    have := d.length_lines
    rw [h] at this
    exact absurd this (by decide)
  rw [← Log.ofList_intercalate_newline hpos, render, Grid.text, textLines_ofDisplay]

end Display

end Chip8
