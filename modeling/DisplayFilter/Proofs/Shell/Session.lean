import DisplayFilter.Proofs.Shell.Memory
import DisplayFilter.Proofs.Text.Pieces

/-!
# Sessions

A shell answers to the lines of a text one after the other.  Two things go on from one command to
the next, what is heard of the log and what the string comparators remember, and neither shows in
what the shell writes.  So a session is a sequence of replies that could each come from a shell of
their own.

* `commandsOf` — the commands of some lines, up to the first one that ends the shell;
* `Remembering.Shell.session`, `Remembering.Shell.alone` — what a shell writes to a text, and to one
  command;
* `ShellState.Consistent` — the mode of a shell is what is heard of the log;
* **`runLines_outputs`**, **`runLines_consistent`** — what a run writes and the state that it
  leaves;
* **`session_replies`** — a session is the sequence of the replies to its commands.
-/

namespace DisplayFilter

variable {engine : PatternEngine}

/-! ### Lines -/

/-- **The commands of some lines** up to and including the first one that ends the shell. -/
def commandsOf : List String → List ShellCommand
  | [] => []
  | line :: lines =>
    if ShellCommand.ofLine line = .exit then [.exit]
    else ShellCommand.ofLine line :: commandsOf lines

/-- The lines behind the end of a line are lines of their own. -/
theorem inputLines_append (s t : String) :
    inputLines (s ++ "\n" ++ t) = inputLines (s ++ "\n") ++ inputLines t := by
  have htext : (s ++ "\n" ++ t).toList = s.toList ++ '\n' :: t.toList := by simp
  have hhead : inputLines (s ++ "\n") = (Text.pieces '\n' s.toList).map String.ofList := by
    have hline : (s ++ "\n").toList = s.toList ++ '\n' :: [] := by simp
    rw [inputLines, hline, Text.pieces_append]
    simp [Text.pieces]
  have hlast : (Text.pieces '\n' s.toList ++ Text.pieces '\n' t.toList).getLast? =
      (Text.pieces '\n' t.toList).getLast? := by
    rw [List.getLast?_append, List.getLast?_eq_some_getLast (Text.pieces_ne_nil '\n' t.toList)]
    rfl
  rw [hhead, inputLines, inputLines, htext, Text.pieces_append]
  simp only [hlast]
  split
  · rw [List.dropLast_append_of_ne_nil (Text.pieces_ne_nil '\n' t.toList), List.map_append]
  · rw [List.map_append]

/-! ### States -/

/-- **The mode of a shell** is the debug mode exactly if debug lines are heard. -/
def ShellState.Consistent (st : ShellState) : Prop :=
  st.debug = Level.debug.within st.level

theorem ShellState.start_consistent (level : Level) : (ShellState.start level).Consistent := rfl

theorem ShellState.toggled_consistent (st : ShellState) : st.toggled.Consistent := by
  unfold ShellState.toggled
  split
  · rfl
  · rfl

namespace Shell

variable {sh : Shell} {st : ShellState}

/-! ### Commands -/

/-- **What a command writes** does not depend on the state. -/
theorem execute_output (st other : ShellState) (command : ShellCommand) :
    (sh.execute st command).output = (sh.execute other command).output := by
  cases command with
  | _ => rfl

theorem execute_goesOn (st : ShellState) (command : ShellCommand) :
    (sh.execute st command).goesOn = !decide (command = .exit) := by
  cases command with
  | _ => rfl

/-- **A command keeps the state consistent.** -/
theorem execute_consistent (h : st.Consistent) (command : ShellCommand) :
    (sh.execute st command).after.Consistent := by
  cases command with
  | debug => exact st.toggled_consistent
  | _ => exact h

/-! ### Runs -/

/-- **What a run writes:** a prompt and a reply for each command, and one more prompt and the end of
the line if no command ended the shell. -/
theorem runLines_outputs (st other : ShellState) (lines : List String) :
    (sh.runLines st lines).outputs =
      ((commandsOf lines).flatMap fun command =>
        [.text sh.rules.prompt, (sh.execute other command).output]) ++
      if .exit ∈ commandsOf lines then [] else [.text sh.rules.prompt, .text "\n"] := by
  induction lines generalizing st with
  | nil => rfl
  | cons line lines ih =>
    rw [runLines, commandsOf]
    simp only [execute_goesOn]
    by_cases hexit : ShellCommand.ofLine line = .exit
    · simp [hexit, execute_output st other]
    · have hmem : .exit ∈ ShellCommand.ofLine line :: commandsOf lines ↔
          .exit ∈ commandsOf lines := by
        rw [List.mem_cons, or_iff_right (Ne.symm hexit)]
      simp only [hexit, decide_false, Bool.not_false, if_true, if_false, hmem, List.flatMap_cons,
        List.cons_append, List.nil_append, execute_output st other, ih]

theorem runLines_consistent (h : st.Consistent) (lines : List String) :
    (sh.runLines st lines).after.Consistent := by
  induction lines generalizing st with
  | nil => exact h
  | cons line lines ih =>
    have hcommand : (sh.execute st (ShellCommand.ofLine line)).after.Consistent :=
      execute_consistent h _
    rw [runLines]
    simp only
    split
    · exact ih hcommand
    · exact hcommand

end Shell

/-! ### Sessions -/

namespace Remembering.Shell

/-- **A session:** what a shell writes to a text, given what its comparators remember and how much
of the log is heard. -/
def session (sh : Remembering.Shell engine) (memory : Memory engine) (level : Level)
    (text : String) : Transcript :=
  ((run sh (.start level) text).run memory).1

/-- **The reply of a new shell** over the same data to one command. -/
def alone (sh : Remembering.Shell engine) (level : Level) (command : ShellCommand) : ShellReply :=
  ((execute sh (.start level) command).run Memory.empty).1

/-- The state that a shell is in when it has answered to some lines. -/
def stateAfter (sh : Remembering.Shell engine) (memory : Memory engine) (level : Level)
    (lines : List String) : ShellState :=
  ((runLines sh (.start level) lines).run memory).1.after

end Remembering.Shell

/-- **Lines behind the end of a shell** are not looked at. -/
theorem Remembering.runLines_append (sh : Remembering.Shell engine) {lines : List String}
    (h : .exit ∈ commandsOf lines) (st : ShellState) (more : List String) :
    runLines sh st (lines ++ more) = runLines sh st lines := by
  induction lines generalizing st with
  | nil => simp [commandsOf] at h
  | cons line lines ih =>
    rw [List.cons_append, runLines, runLines]
    by_cases hexit : ShellCommand.ofLine line = .exit
    · rw [hexit]
      rfl
    · rw [commandsOf, if_neg hexit] at h
      have hlines := ih ((List.mem_cons.1 h).resolve_left (Ne.symm hexit))
      simp only [hlines]

/-- **A session is the sequence of the replies to its commands.**  It starts with the greeting, then
comes a prompt with the reply of a new shell for each command up to the first one that ends the
shell; a prompt and the end of the line stand at the end if there is none.  What follows the lines
of a text that ends the shell changes nothing.  After any number of commands the shell is in debug
mode exactly if debug lines are heard. -/
theorem session_replies (sh : Remembering.Shell engine) {memory : Memory engine}
    (hmemory : memory.Faithful) (level : Level) (text : String) :
    (∀ other, (sh.session memory level text).outputs =
      .text (sh.rules.intro ++ "\n") ::
        (((commandsOf (inputLines text)).flatMap fun command =>
            [.text sh.rules.prompt, (sh.alone other command).output]) ++
          if .exit ∈ commandsOf (inputLines text) then []
          else [.text sh.rules.prompt, .text "\n"])) ∧
      (.exit ∈ commandsOf (inputLines (text ++ "\n")) → ∀ more,
        Remembering.run sh (.start level) (text ++ "\n" ++ more) =
          Remembering.run sh (.start level) (text ++ "\n")) ∧
      ∀ steps,
        let st := sh.stateAfter memory level ((inputLines text).take steps)
        st.debug = true ↔ Level.debug.within st.level = true := by
  refine ⟨fun other => ?_, fun hexit more => ?_, fun steps => ?_⟩
  · have hsession : sh.session memory level text = sh.forget.run (.start level) text :=
      (Remembering.run_transparent sh (.start level) text memory hmemory).1
    have halone : ∀ command, sh.alone other command = sh.forget.execute (.start other) command :=
      fun command => (Remembering.execute_transparent sh (.start other) command Memory.empty
        Memory.faithful_empty).1
    simp only [hsession, halone]
    exact congrArg _ (sh.forget.runLines_outputs (.start level) (.start other) (inputLines text))
  · unfold Remembering.run
    rw [inputLines_append, Remembering.runLines_append sh hexit]
  · have hstate : sh.stateAfter memory level ((inputLines text).take steps) =
        (sh.forget.runLines (.start level) ((inputLines text).take steps)).after :=
      congrArg Transcript.after
        (Remembering.runLines_transparent sh (.start level) _ memory hmemory).1
    have hconsistent := sh.forget.runLines_consistent (ShellState.start_consistent level)
      ((inputLines text).take steps)
    rw [← hstate] at hconsistent
    exact Bool.eq_iff_iff.1 hconsistent

/-- A shell over one record. -/
def oneRecordShell : Remembering.Shell .standard where
  dataset := ⟨["a"], [.map [("a", .string "x")]]⟩

/-- What is remembered behind one search. -/
def searchedOnce : Memory .standard :=
  Memory.empty.replace 0 (PatternCache.search [] "x" "y").2

/-- A filter that looks for a pattern which was read before, and a line that is not looked at. -/
theorem session_replies_exit :
    searchedOnce.Faithful ∧
      (oneRecordShell.session searchedOnce .trace "filter a ~ x\nexit\nfields").outputs =
        [.text "Type help or ? to list commands.\n", .text "> ",
          (oneRecordShell.alone .off (.filter "a ~ x")).output, .text "> ", .text ""] := by
  have hmemory : searchedOnce.Faithful :=
    Memory.faithful_empty.replace 0
      (PatternCache.search_faithful PatternCache.faithful_nil "x" "y").2
  have hcommands : commandsOf (inputLines "filter a ~ x\nexit\nfields") =
      [.filter "a ~ x", .exit] := by decide
  refine ⟨hmemory, ?_⟩
  rw [(session_replies oneRecordShell hmemory .trace "filter a ~ x\nexit\nfields").1 .off,
    hcommands]
  rfl

end DisplayFilter
