import ContractBuild.Proofs.Console.Display
import ContractBuild.Sink

/-!
# Console and stream

A stream takes every line as it is, a console takes what it displays of the line. So the same lines
leave the same text behind exactly if they consist of plain characters, and in any case the same to
be seen (`same_text_iff`). Brackets, backslashes, wide characters, newlines and the length of lines
play no part in it.
-/

namespace ContractBuild

/-- The text written so far to the channel of a sink. -/
def ConsoleSink.text (s : ConsoleSink) : String :=
  match s.channel with
  | .out => s.console.out
  | .err => s.console.err

/-- Lines as a text, each with a newline behind it. -/
def linesText (lines : List String) : String := String.join (lines.map (· ++ "\n"))

/-- What a console displays of a line. -/
def displayed (line : String) : String := String.ofList (Console.display line.toList)

@[simp] theorem linesText_nil : linesText [] = "" := rfl

theorem linesText_cons (line : String) (lines : List String) :
    linesText (line :: lines) = line ++ "\n" ++ linesText lines := by
  rw [linesText, List.map_cons, String.join_cons]
  rfl

theorem toList_linesText (lines : List String) :
    (linesText lines).toList = lines.flatMap fun line => line.toList ++ ['\n'] := by
  induction lines with
  | nil => rfl
  | cons line lines ih =>
    rw [linesText_cons, String.toList_append, String.toList_append, ih, List.flatMap_cons]
    rfl

/-! ## What is written -/

theorem TextStream.writeLines_of_open {t : TextStream} (h : t.closed = false)
    (lines : List String) :
    Sink.writeLines t lines = .ok { t with text := t.text ++ linesText lines } := by
  induction lines generalizing t with
  | nil => rw [linesText_nil, String.append_empty]; rfl
  | cons line lines ih =>
    have hline : Sink.writeLine t line = .ok { t with text := t.text ++ line ++ "\n" } := by
      show t.writeLine line = _
      rw [writeLine, h, if_neg Bool.false_ne_true]
    rw [Sink.writeLines, hline]
    have htext : t.text ++ line ++ "\n" ++ linesText lines
        = t.text ++ linesText (line :: lines) := by
      rw [linesText_cons, String.append_assoc, String.append_assoc, String.append_assoc]
    have hrest := @ih { t with text := t.text ++ line ++ "\n" } h
    simp only [htext] at hrest
    exact hrest

namespace ConsoleSink

/-- The sink after a text was written to its channel. -/
def adding (s : ConsoleSink) (text : String) : ConsoleSink :=
  { s with console := s.console.write text s.channel }

theorem text_adding (s : ConsoleSink) (text : String) : (s.adding text).text = s.text ++ text := by
  unfold adding ConsoleSink.text
  cases s.channel <;> rfl

theorem adding_adding (s : ConsoleSink) (text text' : String) :
    (s.adding text).adding text' = s.adding (text ++ text') := by
  unfold adding
  cases s.channel <;> simp only [Console.write, String.append_assoc]

theorem writeLine_eq (s : ConsoleSink) (line : String) :
    s.writeLine line = s.adding (displayed line ++ "\n") := by
  have hwritten : (Message.plain ⟨s.channel, line⟩).written = displayed line ++ "\n" :=
    String.toList_injective (by simp [Message.written, Message.shown, displayed])
  rw [writeLine, Console.print, hwritten]
  rfl

/-- A console takes all lines. -/
theorem writeLines_eq (s : ConsoleSink) (lines : List String) :
    Sink.writeLines s lines = .ok (s.adding (linesText (lines.map displayed))) := by
  induction lines generalizing s with
  | nil =>
    have hsame : s.adding "" = s := by
      obtain ⟨console, channel⟩ := s
      cases channel <;> simp only [adding, Console.write, String.append_empty]
    exact congrArg Except.ok hsame.symm
  | cons line lines ih =>
    have hline : Sink.writeLines s (line :: lines) = Sink.writeLines (s.writeLine line) lines := rfl
    rw [hline, ih, writeLine_eq, adding_adding, List.map_cons, linesText_cons]

end ConsoleSink

/-! ## What is the same -/

theorem displayed_eq_iff {line : String} :
    displayed line = line ↔ ∀ c ∈ line.toList, Console.isPlain c = true := by
  rw [← Console.display_eq_self_iff, ← String.toList_inj, displayed, String.toList_ofList]

/-- Lines with a character that is not plain leave another text behind, since no such character is
ever displayed. -/
theorem linesText_displayed_eq_iff {lines : List String} :
    linesText (lines.map displayed) = linesText lines
      ↔ ∀ line ∈ lines, ∀ c ∈ line.toList, Console.isPlain c = true := by
  constructor
  · intro h line hline c hc
    have hmem : c ∈ (linesText lines).toList := by
      rw [toList_linesText]
      exact List.mem_flatMap.2 ⟨line, hline, List.mem_append_left _ hc⟩
    rw [← h, toList_linesText] at hmem
    obtain ⟨shown, hshown, hmem⟩ := List.mem_flatMap.1 hmem
    obtain ⟨line, -, rfl⟩ := List.mem_map.1 hshown
    rcases List.mem_append.1 hmem with hmem | hmem
    · rw [displayed, String.toList_ofList] at hmem
      exact Console.isPlain_of_mem_display hmem
    · rw [List.mem_singleton.1 hmem]
      decide
  · intro h
    have hmap : lines.map displayed = lines.map id :=
      List.map_congr_left fun line hline => displayed_eq_iff.2 (h line hline)
    rw [hmap, List.map_id]

theorem filter_linesText_displayed (lines : List String) :
    (linesText (lines.map displayed)).toList.filter Console.isVisible
      = (linesText lines).toList.filter Console.isVisible := by
  simp only [toList_linesText, List.flatMap_map, List.filter_flatMap, List.filter_append, displayed,
    String.toList_ofList, Console.filter_display]

/-- Of the same lines a stream and a console take the same text exactly if all characters are plain:
no tabs, and none of those that a console hides. Whatever the lines are, both take all of them, and
there is the same to be seen. -/
theorem same_text_iff {t : TextStream} {s : ConsoleSink} (hopen : t.closed = false)
    (hsame : s.text = t.text) (lines : List String) :
    ∃ t' s', Sink.writeLines t lines = .ok t' ∧ Sink.writeLines s lines = .ok s'
      ∧ t'.text = t.text ++ linesText lines
      ∧ s'.text = s.text ++ linesText (lines.map displayed)
      ∧ (s'.text = t'.text
        ↔ ∀ line ∈ lines, ∀ c ∈ line.toList, c ≠ '\t' ∧ c ∉ Console.hidden)
      ∧ s'.text.toList.filter Console.isVisible = t'.text.toList.filter Console.isVisible := by
  have htext := s.text_adding (linesText (lines.map displayed))
  refine ⟨_, _, t.writeLines_of_open hopen lines, s.writeLines_eq lines, rfl, htext, ?_, ?_⟩
  · simp only [htext, hsame, String.append_right_inj, linesText_displayed_eq_iff,
      Console.isPlain_iff]
  · simp only [htext, hsame, String.toList_append, List.filter_append, filter_linesText_displayed]

/-- Brackets, backslashes, wide characters and newlines reach the error channel as they are. -/
theorem bracketed_lines_same_text :
    let t : TextStream := { text := "> " }
    let s : ConsoleSink := { console := { err := "> " }, channel := .err }
    let lines := ["Token.cs(3,14): error CS1002: [x] \\[/]", "Created /出/Token.nef\n  done"]
    t.closed = false ∧ s.text = t.text
      ∧ ∃ t' s', Sink.writeLines t lines = .ok t' ∧ Sink.writeLines s lines = .ok s'
        ∧ s'.text = t'.text := by
  intro t s lines
  have hplain : (lines.all fun line => line.toList.all Console.isPlain) = true := by decide +kernel
  have hsame : s.text = t.text := rfl
  obtain ⟨t', s', ht, hs, -, -, hiff, -⟩ := same_text_iff (t := t) rfl hsame lines
  refine ⟨rfl, hsame, t', s', ht, hs, hiff.2 fun line hline c hc => ?_⟩
  exact Console.isPlain_iff.1 (List.all_eq_true.1 (List.all_eq_true.1 hplain line hline) c hc)

/-- A tab reaches a stream as it is, and a console as blanks. -/
theorem tab_differs :
    Sink.writeLines ({} : TextStream) ["a\tb"] = .ok { text := "a\tb\n" }
      ∧ Sink.writeLines ({} : ConsoleSink) ["a\tb"] = .ok { console := { out := "a       b\n" } }
      ∧ ({ console := { out := "a       b\n" } } : ConsoleSink).text ≠ "a\tb\n" := by
  decide +kernel

end ContractBuild
