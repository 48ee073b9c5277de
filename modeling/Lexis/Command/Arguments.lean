/-!
Reading the arguments of the command. Settings come first, then the name of the task, then the
task's own options and the file. Options of one letter may be written together; behind a double
dash that follows the task every argument is a file.
-/

set_option autoImplicit false
set_option relaxedAutoImplicit false

namespace Lexis.Command

structure Settings where
  verbosity : Nat := 0
  quiet : Bool := false
  deriving DecidableEq, Repr

inductive Task where
  /-- Print its tokens, up to the first error or, when going on, all or nothing. -/
  | tokens (keepGoing : Bool)
  | check
  deriving DecidableEq, Repr

structure Invocation where
  settings : Settings
  task : Task
  file : String
  deriving DecidableEq, Repr

inductive Argument where
  | long (name : String)
  | short (flags : List Char)
  | separator
  /-- Anything else, a dash alone included. -/
  | plain (text : String)
  deriving DecidableEq, Repr

def Argument.ofString (s : String) : Argument :=
  match s.toList with
  | ['-', '-'] => .separator
  | '-' :: '-' :: name => .long (String.ofList name)
  | '-' :: flag :: flags => .short (flag :: flags)
  | _ => .plain s

/-- Options of one letter before the task. Being quiet may be asked for once. -/
def Settings.flag? (s : Settings) : Char → Option Settings
  | 'v' => some { s with verbosity := s.verbosity + 1 }
  | 'q' => if s.quiet then none else some { s with quiet := true }
  | _ => none

def settingLetter? : String → Option Char
  | "verbose" => some 'v'
  | "quiet" => some 'q'
  | _ => none

/-- What has been read behind the name of a task. -/
structure Operands where
  keepGoing : Bool := false
  file : Option String := none
  deriving DecidableEq, Repr

/-- One file, which must have a name. -/
def Operands.value? (o : Operands) (text : String) : Option Operands :=
  if text = "" ∨ o.file.isSome then none else some { o with file := some text }

def Operands.flag? (o : Operands) : Char → Option Operands
  | 'k' => if o.keepGoing then none else some { o with keepGoing := true }
  | _ => none

/-- The arguments behind the name of a task; `options` tells whether the task has options. -/
def operands? (options : Bool) (o : Operands) : List String → Option Operands
  | [] => some o
  | arg :: args =>
    match Argument.ofString arg with
    | .separator => args.foldlM Operands.value? o
    | .plain text => (o.value? text).bind fun o => operands? options o args
    | .long name =>
      if options ∧ name = "keep-going" then
        (o.flag? 'k').bind fun o => operands? options o args
      else none
    | .short flags =>
      if options then (flags.foldlM Operands.flag? o).bind fun o => operands? options o args
      else none

def task? (settings : Settings) (name : String) (args : List String) : Option Invocation :=
  match name with
  | "tokens" => do
    let o ← operands? true {} args
    let file ← o.file
    return { settings, task := .tokens o.keepGoing, file }
  | "check" => do
    let o ← operands? false {} args
    let file ← o.file
    return { settings, task := .check, file }
  | _ => none

def invocation? (settings : Settings) : List String → Option Invocation
  | [] => none
  | arg :: args =>
    match Argument.ofString arg with
    | .separator => none
    | .plain name => task? settings name args
    | .long name => do
      let flag ← settingLetter? name
      let settings ← settings.flag? flag
      invocation? settings args
    | .short flags => do
      let settings ← flags.foldlM Settings.flag? settings
      invocation? settings args

/-- The command that the arguments ask for, none when they are not well formed. -/
def Invocation.ofArguments? (args : List String) : Option Invocation := invocation? {} args

example : Invocation.ofArguments? ["-vqv", "tokens", "-k", "--", "-x"] =
    some { settings := { verbosity := 2, quiet := true }, task := .tokens true, file := "-x" } := by
  decide +kernel

example : Invocation.ofArguments? ["--", "check", "x"] = none := by decide +kernel

end Lexis.Command
