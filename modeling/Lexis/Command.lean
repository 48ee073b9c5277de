import Lexis.Command.Arguments
import Lexis.Diagnostic
import Lexis.Log
import Lexis.Stream

/-!
The command on the content of its file: what it prints, what it logs and how it ends. Reading the
file is left to the caller.
-/

set_option autoImplicit false
set_option relaxedAutoImplicit false

namespace Lexis.Command

inductive ReadFailure where
  | system (reason : String) (code : Nat)
  | notUtf8
  deriving DecidableEq, Repr

namespace ReadFailure

def missing : ReadFailure := .system "No such file or directory" 2

def directory : ReadFailure := .system "Is a directory" 21

def cause : ReadFailure → String
  | system reason code => reason ++ " (os error " ++ code.repr ++ ")"
  | notUtf8 => "stream did not contain valid UTF-8"

end ReadFailure

def decode (bytes : ByteArray) : Except ReadFailure String :=
  match String.fromUTF8? bytes with
  | some text => .ok text
  | none => .error .notUtf8

/-- How the command ends: its status, what it prints and what it tells beside that. -/
structure Outcome where
  status : Nat
  output : String
  messages : String
  deriving DecidableEq, Repr

def success : Nat := 0

def failure : Nat := 1

def misuse : Nat := 2

/-- The status of a command that broke down. What the system tells about it is left out. -/
def breakdown : Nat := 101

def unlines (lines : List String) : String := String.join (lines.map (· ++ "\n"))

def tokenLine (t : Token) : String :=
  Text.alignRight 4 t.location.line.repr ++ ":" ++ Text.alignLeft 3 t.location.column.repr ++ " " ++
    t.display

def tokenLines (tokens : List Token) : String := unlines (tokens.map tokenLine)

/-- The report on errors, as the status that it ends in and its lines: for each error what is wrong,
where, and an empty line, and then the number of all. It breaks down at an error that cannot be
shown, behind the line that says what is wrong. -/
def reportFrom (source : String) (count : Nat) : List LexError → Nat × List String
  | [] => (failure, [count.repr ++ " lexical error(s)"])
  | e :: errors =>
    let heading := "Lexer error (" ++ e.message ++ ")"
    match e.diagnostic.render? source with
    | none => (breakdown, [heading])
    | some picture =>
      let (status, lines) := reportFrom source count errors
      (status, heading :: picture :: "" :: lines)

def errorReport (source : String) (errors : List LexError) : Nat × String :=
  (reportFrom source errors.length errors).map id unlines

def Settings.level? (s : Settings) : Option Level :=
  if s.quiet then none
  else
    match s.verbosity with
    | 0 => some .warn
    | 1 => some .info
    | 2 => some .debug
    | _ => some .trace

def Settings.logLines (s : Settings) (entries : List Entry) : String :=
  match s.level? with
  | none => ""
  | some kept =>
    unlines ((entriesAt kept entries).map fun entry => entry.level.name ++ " - " ++ entry.message)

/-- What a task does with a source: its status, what it prints, and what there is to log. -/
structure Report where
  status : Nat
  output : String
  entries : List Entry

/-- The tokens up to the first error, which is reported. -/
def printUntilError (source : String) : Report :=
  let scans := (Stream.ofString source).drain.1
  let items := scans.map (·.item)
  let printed := tokenLines (items.filterMap Item.token?)
  let entries := (scans.flatMap (·.log)).map Event.entry
  match items.filterMap Item.error? with
  | [] => { status := success, output := printed, entries }
  | errors =>
    let (status, report) := errorReport source errors
    { status, output := printed ++ report, entries }

/-- All tokens, or all errors if there is one. -/
def printAll (source : String) : Report :=
  let entries := (events source).map Event.entry
  match lex source with
  | .ok tokens => { status := success, output := tokenLines tokens, entries }
  | .error errors =>
    let (status, output) := errorReport source errors
    { status, output, entries }

def checkSource (file source : String) : Report :=
  let entries := (events source).map Event.entry
  match lex source with
  | .ok tokens =>
    let counted := { level := .info, message := file ++ ": " ++ tokens.length.repr ++ " tokens" }
    { status := success, output := "No lexical errors found\n", entries := entries ++ [counted] }
  | .error errors =>
    let (status, output) := errorReport source errors
    { status, output, entries }

def Task.run (file source : String) : Task → Report
  | .tokens false => printUntilError source
  | .tokens true => printAll source
  | .check => checkSource file source

/-- The outcome of the command, given what reading its file came to. That a file cannot be read is
told even when the log is silent. -/
def Invocation.execute (i : Invocation) : Except ReadFailure String → Outcome
  | .ok source =>
    let report := i.task.run i.file source
    { status := report.status
      output := report.output
      messages := i.settings.logLines report.entries }
  | .error reason =>
    { status := failure
      output := ""
      messages :=
        "Error: Unable to read " ++ i.file ++ "\n\nCaused by:\n    " ++ reason.cause ++ "\n" }

end Lexis.Command
