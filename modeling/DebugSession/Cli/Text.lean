/-
What the command line shows: events, breakpoints and help.
-/
import DebugSession.Event

namespace DebugSession
namespace Cli

open Text.Decimal (render renderInt)

def prompt : String := "cli> "

def breakpointLine (bp : Breakpoint) : String :=
  "Breakpoint " ++ render bp.id.toNat ++ " at " ++ bp.file ++ ":" ++ render bp.line.toNat ++
    (if bp.verified then "" else " (pending)")

def removedLine (bp : Breakpoint) : String :=
  "Removed breakpoint " ++ render bp.id.toNat ++ " at " ++ bp.file ++ ":" ++ render bp.line.toNat

def threadLine (t : ThreadInfo) : String :=
  "#" ++ render t.id.toNat ++ " " ++ t.name ++ " [" ++
    (if t.running then "running" else "stopped") ++ "]"

def lines (ls : List String) : String := "\n".intercalate ls

def eventText : Event → String
  | .processStarted pid name =>
    "Process " ++ name ++ " started, pid " ++ render pid.toNat ++ "\n"
  | .stopped reason (some id) =>
    "Stopped at " ++ reason.text ++ ", thread " ++ render id.toNat ++ "\n"
  | .stopped reason none => "Stopped at " ++ reason.text ++ "\n"
  | .continued _ => "Running\n"
  | .breakpointChanged bp => breakpointLine bp ++ " changed\n"
  | .output _ text => text
  | .exited code => "Process exited with code " ++ renderInt code ++ "\n"
  | .terminated => "Debugee terminated\n"

/-- The topics of the help and their texts. -/
def helpTopics : List (String × String) :=
  [("file", "file <path> [args..]  -- set program to run and its arguments"),
    ("run", "run, r                -- start the program"),
    ("attach", "attach <pid>          -- attach to a running process"),
    ("continue", "continue, c           -- resume execution"),
    ("next", "next, n               -- step over"),
    ("step", "step, s               -- step into"),
    ("finish", "finish                -- step out of the current function"),
    ("interrupt", "interrupt, pause      -- stop the running program"),
    ("break", lines
      ["break, b <file>:<line> -- set breakpoint",
        "break remove <n>      -- remove breakpoint by number",
        "break info            -- list breakpoints"]),
    ("thread", "thread info           -- list threads"),
    ("help", "help, h [command]     -- show help"),
    ("quit", "quit, q               -- end the session")]

/-- All of the help, or one topic of it. -/
def helpText? : Option String → Option String
  | none => some (lines (helpTopics.map Prod.snd))
  | some topic => helpTopics.lookup topic

end Cli
end DebugSession
