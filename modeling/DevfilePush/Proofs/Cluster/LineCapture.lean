import DevfilePush.Cluster.LineCapture
import DevfilePush.Proofs.Text.Utf8

/-!
Writing to a capture and reading from it, in any order.

However the output was cut, the lines that the reader has been given and those that still
wait for it are the lines of what was accepted (`delivered_append_lines`): the pieces
between line feeds, and once the output has ended what is left after the last line feed.
Bytes are decoded line by line only after a line is complete, so a cut inside of a
character or before a line feed does no harm, and text that was written as lines is read
as these lines.
-/

namespace DevfilePush

/-! ### Lines of an output -/

/-- Bytes may come in two parts: what the first part leaves is put before the second. -/
theorem splitLines_append (first second : List UInt8) :
    splitLines (first ++ second) =
      ((splitLines first).1 ++ (splitLines ((splitLines first).2 ++ second)).1,
        (splitLines ((splitLines first).2 ++ second)).2) := by
  induction first with
  | nil => simp [splitLines]
  | cons b rest ih =>
    by_cases isEnd : b = lineFeed
    · simp [splitLines, isEnd, ih]
    · cases complete : (splitLines rest).1 with
      | nil => simp [splitLines, isEnd, ih, complete]
      | cons line others => simp [splitLines, isEnd, ih, complete]

/-- The complete lines are the pieces between line feeds, except for the last piece. -/
theorem splitOn_lineFeed (output : List UInt8) :
    output.splitOn lineFeed = (splitLines output).1 ++ [(splitLines output).2] := by
  induction output with
  | nil => rfl
  | cons b rest ih =>
    rw [List.splitOn_cons_eq_if_modifyHead, ih]
    by_cases isEnd : b = lineFeed
    · simp [splitLines, isEnd]
    · cases complete : (splitLines rest).1 with
      | nil => simp [splitLines, isEnd, complete]
      | cons line others => simp [splitLines, isEnd, complete]

/-- The lines of some output. What follows the last line feed counts as a line only when the
output has ended and there is something. -/
def outputLines (output : List UInt8) (ended : Bool) : List String :=
  let pieces := output.splitOn lineFeed
  pieces.dropLast.map lineText ++
    if ended && !(pieces.getLastD []).isEmpty then [lineText (pieces.getLastD [])] else []

/-- In terms of complete lines and a rest, the rest is a line of its own after the end, unless it
is empty. -/
theorem outputLines_eq (output : List UInt8) (ended : Bool) :
    outputLines output ended = (splitLines output).1.map lineText ++
      if ended && !(splitLines output).2.isEmpty then [lineText (splitLines output).2] else [] := by
  simp [outputLines, splitOn_lineFeed]

/-! ### Lines that were written -/

/-- The byte that is taken off the end of a line. -/
def carriageReturn : UInt8 := 13

/-- Only a carriage return at the very end of a line is taken off it. -/
theorem lineText_of_plain {line : List UInt8} (plain : line.getLast? ≠ some carriageReturn) :
    lineText line = Text.Utf8.decodeLossy line :=
  congrArg Text.Utf8.decodeLossy (if_neg plain)

theorem lineText_append_carriageReturn (line : List UInt8) :
    lineText (line ++ [carriageReturn]) = Text.Utf8.decodeLossy line := by
  simp [lineText, carriageReturn]

/-- A text that can be written as a line. -/
structure IsLine (text : String) : Prop where
  free : '\n' ∉ text.toList
  plain : text.toList.getLast? ≠ some '\r'

instance (text : String) : Decidable (IsLine text) :=
  decidable_of_iff ('\n' ∉ text.toList ∧ text.toList.getLast? ≠ some '\r')
    ⟨fun ⟨free, plain⟩ => ⟨free, plain⟩, fun ⟨free, plain⟩ => ⟨free, plain⟩⟩

namespace IsLine

variable {text : String} (isLine : IsLine text)

include isLine

theorem lineFeed_notMem : lineFeed ∉ Text.Utf8.encode text := by
  intro mem
  exact isLine.free (Text.Utf8.mem_of_mem_encode mem (by decide))

theorem getLast?_ne : (Text.Utf8.encode text).getLast? ≠ some carriageReturn := by
  intro isLast
  exact isLine.plain (Text.Utf8.getLast?_of_encode isLast (by decide))

end IsLine

/-- The ways in which a line may be ended. -/
def lineEndings : List (List UInt8) := [[lineFeed], [carriageReturn, lineFeed]]

/-- Each way of ending a line amounts to a line feed after bytes that are read as the text. -/
theorem exists_line_of_ending {ending : List UInt8} (isEnding : ending ∈ lineEndings)
    {text : String} (isLine : IsLine text) :
    ∃ line, Text.Utf8.encode text ++ ending = line ++ [lineFeed] ∧ lineFeed ∉ line ∧
      lineText line = text := by
  simp only [lineEndings, List.mem_cons, List.not_mem_nil, or_false] at isEnding
  rcases isEnding with rfl | rfl
  · refine ⟨Text.Utf8.encode text, rfl, isLine.lineFeed_notMem, ?_⟩
    rw [lineText_of_plain isLine.getLast?_ne, Text.Utf8.decodeLossy_encode]
  · refine ⟨Text.Utf8.encode text ++ [carriageReturn], by simp, ?_, ?_⟩
    · simp [isLine.lineFeed_notMem, show lineFeed ≠ carriageReturn by decide]
    · rw [lineText_append_carriageReturn, Text.Utf8.decodeLossy_encode]

/-- Texts that were written as lines are the lines of the output. -/
theorem outputLines_flatMap {ending : List UInt8} (isEnding : ending ∈ lineEndings)
    {texts : List String} (areLines : ∀ text ∈ texts, IsLine text) (ended : Bool) :
    outputLines (texts.flatMap fun text => Text.Utf8.encode text ++ ending) ended = texts := by
  rw [outputLines]
  suffices pieces : ∃ lines : List (List UInt8),
      (texts.flatMap fun text => Text.Utf8.encode text ++ ending).splitOn lineFeed =
        lines ++ [[]] ∧ lines.map lineText = texts by
    obtain ⟨lines, split, same⟩ := pieces
    simp [split, same]
  induction texts with
  | nil => exact ⟨[], rfl, rfl⟩
  | cons text rest ih =>
    obtain ⟨lines, split, same⟩ := ih fun other mem => areLines other (List.mem_cons_of_mem _ mem)
    obtain ⟨line, ends, free, reads⟩ :=
      exists_line_of_ending isEnding (areLines text List.mem_cons_self)
    refine ⟨line :: lines, ?_, by rw [List.map_cons, reads, same]⟩
    rw [List.flatMap_cons, ends, List.append_assoc, List.singleton_append,
      List.splitOn_append_cons_self_of_not_mem free, split, List.cons_append]

/-! ### Steps -/

/-- There is nothing to be closed twice. -/
theorem LineCapture.close_eq_self {capture : LineCapture} (pending : capture.pending = [])
    (ended : capture.isOpen = false) : capture.close = capture := by
  cases capture
  cases pending
  cases ended
  rfl

/-- Something that the two ends of a capture do. Dropping the writer closes the capture, so
what is written afterwards, if anybody could, would be refused. -/
inductive CaptureAction where
  | write (bytes : List UInt8)
  | flush
  | close
  | dropWriter
  /-- The reader asks for a line. -/
  | next
  deriving DecidableEq, Repr

/-- The actions that end the output. -/
def CaptureAction.isEnding : CaptureAction → Bool
  | close | dropWriter => true
  | write _ | flush | next => false

/-- The bytes that an action writes. -/
def CaptureAction.chunk? : CaptureAction → Option (List UInt8)
  | write bytes => some bytes
  | flush | close | dropWriter | next => none

/-- A capture with its past. -/
structure CaptureRun where
  capture : LineCapture := .empty
  /-- The chunks that were accepted. -/
  accepted : List (List UInt8) := []
  /-- The lines that the reader has been given. -/
  delivered : List String := []
  deriving DecidableEq, Repr

namespace CaptureRun

/-- The run after one more action. Chunks that are refused leave no trace, and a reader for
whom there is no line goes on waiting or is told that the output has ended. -/
def perform (run : CaptureRun) : CaptureAction → CaptureRun
  | .write bytes =>
    match run.capture.write? bytes with
    | some capture => { run with capture, accepted := run.accepted ++ [bytes] }
    | none => run
  | .flush => run
  | .close | .dropWriter => { run with capture := run.capture.close }
  | .next =>
    match run.capture.takeLine? with
    | some (line, capture) => { run with capture, delivered := run.delivered ++ [line] }
    | none => run

/-- The run of some actions, from a capture to which nothing has been written. -/
def ofActions (actions : List CaptureAction) : CaptureRun :=
  actions.foldl perform {}

/-- What holds of a run throughout: no accepted byte is lost, and none is read twice. -/
structure Faithful (run : CaptureRun) : Prop where
  lines : run.delivered ++ run.capture.lines =
    outputLines run.accepted.flatten (!run.capture.isOpen)
  pending : run.capture.pending =
    if run.capture.isOpen then (splitLines run.accepted.flatten).2 else []

variable {run : CaptureRun}

/-- Writing completes lines and leaves the rest pending, or it is refused and changes nothing. -/
theorem Faithful.write (faithful : run.Faithful) (bytes : List UInt8) :
    (run.perform (.write bytes)).Faithful := by
  cases isOpen : run.capture.isOpen with
  | false => simpa [perform, LineCapture.write?, isOpen] using faithful
  | true =>
    obtain ⟨lines, pending⟩ := faithful
    simp only [outputLines_eq, isOpen, Bool.not_true, Bool.false_and, Bool.false_eq_true,
      if_false, List.append_nil, if_true] at lines pending
    have accepted : (run.accepted ++ [bytes]).flatten = run.accepted.flatten ++ bytes := by simp
    -- What was pending stands for all that had been accepted before.
    have split := splitLines_append run.accepted.flatten bytes
    rw [← pending] at split
    simp only [perform, LineCapture.write?, isOpen, if_true]
    constructor
    · simp [outputLines_eq, accepted, split, ← lines]
    · simp [accepted, split]

/-- Closing makes a line of what is pending. -/
theorem Faithful.close (faithful : run.Faithful) :
    ({ run with capture := run.capture.close } : CaptureRun).Faithful := by
  obtain ⟨lines, pending⟩ := faithful
  constructor
  · cases isOpen : run.capture.isOpen with
    | false =>
      simp only [isOpen, Bool.false_eq_true, if_false] at pending
      simpa [LineCapture.close, pending, isOpen] using lines
    | true =>
      simp only [outputLines_eq, isOpen, Bool.not_true, Bool.false_and, Bool.false_eq_true,
        if_false, List.append_nil, if_true] at lines pending
      by_cases complete : (splitLines run.accepted.flatten).2 = []
      · simp [LineCapture.close, outputLines_eq, pending, complete, lines]
      · simp [LineCapture.close, outputLines_eq, pending, complete, ← lines]
  · simp [LineCapture.close]

/-- Reading moves the first line from those that wait to those that have been delivered. -/
theorem Faithful.next (faithful : run.Faithful) : (run.perform .next).Faithful := by
  obtain ⟨lines, pending⟩ := faithful
  cases queued : run.capture.lines with
  | nil =>
    simp only [perform, LineCapture.takeLine?, queued]
    exact ⟨lines, pending⟩
  | cons line rest =>
    simp only [perform, LineCapture.takeLine?, queued]
    refine ⟨?_, pending⟩
    simpa [queued] using lines

/-- So every action keeps a run faithful. -/
theorem Faithful.perform (faithful : run.Faithful) (action : CaptureAction) :
    (run.perform action).Faithful := by
  cases action with
  | write bytes => exact faithful.write bytes
  | flush => exact faithful
  | close => exact faithful.close
  | dropWriter => exact faithful.close
  | next => exact faithful.next

/-! ### Runs -/

/-- A capture is closed by actions that end it, and nothing opens it again. -/
theorem isOpen_perform (action : CaptureAction) :
    (run.perform action).capture.isOpen = (run.capture.isOpen && !action.isEnding) := by
  cases action with
  | write bytes =>
    cases isOpen : run.capture.isOpen <;>
      simp [perform, LineCapture.write?, isOpen, CaptureAction.isEnding]
  | flush => simp [perform, CaptureAction.isEnding]
  | close => simp [perform, LineCapture.close, CaptureAction.isEnding]
  | dropWriter => simp [perform, LineCapture.close, CaptureAction.isEnding]
  | next =>
    cases queued : run.capture.lines <;>
      simp [perform, LineCapture.takeLine?, queued, CaptureAction.isEnding]

theorem isOpen_foldl (actions : List CaptureAction) :
    (actions.foldl perform run).capture.isOpen =
      (run.capture.isOpen && !actions.any CaptureAction.isEnding) := by
  induction actions generalizing run with
  | nil => simp
  | cons action rest ih =>
    rw [List.foldl_cons, ih, isOpen_perform]
    simp [Bool.and_assoc]

/-- And therefore every run is, by induction on its actions. -/
theorem Faithful.foldl (faithful : run.Faithful) (actions : List CaptureAction) :
    (actions.foldl CaptureRun.perform run).Faithful := by
  induction actions generalizing run with
  | nil => exact faithful
  | cons action rest ih => exact ih (faithful.perform action)

theorem faithful_ofActions (actions : List CaptureAction) : (ofActions actions).Faithful :=
  Faithful.foldl ⟨rfl, rfl⟩ actions

theorem accepted_perform (action : CaptureAction) :
    (run.perform action).accepted =
      run.accepted ++ if run.capture.isOpen then action.chunk?.toList else [] := by
  cases action with
  | write bytes =>
    cases isOpen : run.capture.isOpen <;>
      simp [perform, LineCapture.write?, isOpen, CaptureAction.chunk?]
  | flush => simp [perform, CaptureAction.chunk?]
  | close => simp [perform, CaptureAction.chunk?]
  | dropWriter => simp [perform, CaptureAction.chunk?]
  | next =>
    cases queued : run.capture.lines <;>
      simp [perform, LineCapture.takeLine?, queued, CaptureAction.chunk?]

/-- Chunks are accepted until the output has ended. -/
theorem accepted_foldl (actions : List CaptureAction) :
    (actions.foldl perform run).accepted = run.accepted ++
      if run.capture.isOpen then
        (actions.takeWhile fun action => !action.isEnding).filterMap CaptureAction.chunk?
      else [] := by
  induction actions generalizing run with
  | nil => simp
  | cons action rest ih =>
    rw [List.foldl_cons, ih, accepted_perform, isOpen_perform]
    cases isOpen : run.capture.isOpen with
    | false => simp
    | true =>
      cases isEnding : action.isEnding with
      | true => cases action <;> simp_all [CaptureAction.isEnding, CaptureAction.chunk?]
      | false =>
        cases chunk : action.chunk? <;> simp [isEnding, chunk]

theorem delivered_next :
    (run.perform .next).delivered = run.delivered ++ run.capture.lines.head?.toList := by
  cases queued : run.capture.lines <;> simp [perform, LineCapture.takeLine?, queued]

/-- After the end nothing but reading changes anything. -/
theorem Faithful.perform_eq_self (faithful : run.Faithful) (ended : run.capture.isOpen = false)
    {action : CaptureAction} (writes : action ≠ .next) : run.perform action = run := by
  have closed : run.capture.close = run.capture :=
    LineCapture.close_eq_self (by simp [faithful.pending, ended]) ended
  cases action with
  | write bytes => simp [CaptureRun.perform, LineCapture.write?, ended]
  | flush => rfl
  | close => simp [CaptureRun.perform, closed]
  | dropWriter => simp [CaptureRun.perform, closed]
  | next => exact absurd rfl writes

/-- What collecting adds to the lines that have been delivered. -/
theorem Faithful.collected (faithful : run.Faithful) :
    run.delivered ++ run.capture.close.lines = outputLines run.accepted.flatten true :=
  faithful.close.lines

/-- A program's output is captured as a whole; once it has ended, it makes no difference in
which pieces it came and when they were read. -/
theorem Faithful.capturedLines_eq (faithful : run.Faithful) (ended : run.capture.isOpen = false) :
    capturedLines run.accepted.flatten = run.delivered ++ run.capture.lines := by
  have whole := (faithful_ofActions [.write run.accepted.flatten]).collected
  simp only [ofActions, List.foldl_cons, List.foldl_nil, CaptureRun.perform, LineCapture.write?,
    LineCapture.empty, if_true, List.nil_append, List.flatten_singleton] at whole
  rw [faithful.lines, ended]
  exact whole

/-- **The reader gets the lines of what was accepted**, however it was cut and whatever else
was done in between. Of two endings the second one changes nothing, and neither does a
write after an ending, which is refused. Texts that were written as lines are what has been
delivered and what can still be collected. -/
theorem delivered_append_lines (actions : List CaptureAction) :
    let run := ofActions actions
    let ended := actions.any CaptureAction.isEnding
    run.delivered ++ run.capture.lines = outputLines run.accepted.flatten ended ∧
    run.accepted =
      (actions.takeWhile fun action => !action.isEnding).filterMap CaptureAction.chunk? ∧
    (run.perform .next).delivered = run.delivered ++ run.capture.lines.head?.toList ∧
    (∀ bytes, run.capture.write? bytes = none ↔ ended = true) ∧
    (ended = true → ∀ action, action ≠ .next → run.perform action = run) ∧
    (∀ ending ∈ lineEndings, ∀ texts : List String, (∀ text ∈ texts, IsLine text) →
      run.accepted.flatten = texts.flatMap (fun text => Text.Utf8.encode text ++ ending) →
      run.delivered ++ run.capture.close.lines = texts) := by
  intro run ended
  have faithful : run.Faithful := faithful_ofActions actions
  have isOpen : run.capture.isOpen = !ended := isOpen_foldl actions
  refine ⟨?_, accepted_foldl actions, delivered_next, ?_, ?_, ?_⟩
  · rw [faithful.lines, isOpen, Bool.not_not]
  · intro bytes
    cases isEnded : ended <;> simp [LineCapture.write?, isOpen, isEnded]
  · intro isEnded action writes
    rw [isEnded] at isOpen
    exact faithful.perform_eq_self isOpen writes
  · intro ending isEnding texts areLines written
    rw [faithful.collected, written, outputLines_flatMap isEnding areLines]

/-- Two lines whose bytes come in pieces: the first is cut inside of its only character, and
between the two bytes that end it. -/
theorem delivered_append_lines_cut :
    let actions : List CaptureAction :=
      [.write [0xC3], .next, .write [0xA9, 13], .write [10, 98], .next, .flush, .write [13, 10],
        .dropWriter, .write [99], .close]
    (∀ text ∈ ["é", "b"], IsLine text) ∧
      (ofActions actions).accepted.flatten =
        ["é", "b"].flatMap (fun text => Text.Utf8.encode text ++ [carriageReturn, lineFeed]) ∧
      (ofActions actions).delivered ++ (ofActions actions).capture.close.lines = ["é", "b"] := by
  intro actions
  have areLines : ∀ text ∈ ["é", "b"], IsLine text := by decide
  have written : (ofActions actions).accepted.flatten =
      ["é", "b"].flatMap
        (fun text => Text.Utf8.encode text ++ [carriageReturn, lineFeed]) := by
    decide
  obtain ⟨-, -, -, -, -, readBack⟩ := delivered_append_lines actions
  exact ⟨areLines, written, readBack [carriageReturn, lineFeed] (by decide) _ areLines written⟩

end CaptureRun

end DevfilePush
