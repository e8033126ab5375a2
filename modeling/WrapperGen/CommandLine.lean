import WrapperGen.Command
import WrapperGen.CommandLine.Argument

/-!
Command lines. Before the command there may be switches for the whole program; the first of them
that asks for the version is answered, whatever comes after it.
-/

namespace WrapperGen

inductive CommandLine
  | version
  | run (command : Command)
deriving DecidableEq, Repr

namespace Command

/-- The switch that asks for more messages, which every command knows. -/
def verboseSwitch : Switch := { name := "verbose", letter := 'v' }

/-- The arguments that one of the commands takes, if they are in order. -/
def readArguments? (known : List Switch) (texts : List Text) : Option (List Argument) :=
  (Argument.readAll? (verboseSwitch :: known) texts).filter Argument.areSingle

/-- The directory that is given among the arguments, or the working directory. -/
def directory (arguments : List Argument) : Path :=
  match arguments.findSome? Argument.word? with
  | some text => ⟨text⟩
  | none => "."

/-- The path that a switch gives, which is not empty. -/
def path? (name : Text) (arguments : List Argument) : Option (Option Path) :=
  match Argument.value? name arguments with
  | none => some none
  | some text => if text.isEmpty then none else some (some ⟨text⟩)

def generateSwitches : List Switch := [
  { name := "target", letter := 't', takesValue := true },
  { name := "input", letter := 'i', takesValue := true },
  { name := "output", letter := 'o', takesValue := true },
  { name := "stdout" }]

def readGenerate? (texts : List Text) : Option Generate := do
  let arguments ← readArguments? generateSwitches texts
  return {
    path := directory arguments
    target := Argument.value? "target" arguments
    input := ← path? "input" arguments
    output := ← path? "output" arguments
    toStdout := Argument.isGiven "stdout" arguments }

def checkSwitches : List Switch := [
  { name := "target", letter := 't', takesValue := true },
  { name := "format", letter := 'f', takesValue := true }]

def readCheck? (texts : List Text) : Option Check := do
  let arguments ← readArguments? checkSwitches texts
  return {
    path := directory arguments
    target := Argument.value? "target" arguments
    format := (Argument.value? "format" arguments).getD "text" }

def initSwitches : List Switch := [{ name := "force", letter := 'f' }]

def readInit? (texts : List Text) : Option Initialize := do
  let arguments ← readArguments? initSwitches texts
  return { path := directory arguments, force := Argument.isGiven "force" arguments }

def read? (name : Text) (texts : List Text) : Option Command :=
  if name = "generate" then (readGenerate? texts).map .generate
  else if name = "check" then (readCheck? texts).map .check
  else if name = "init" then (readInit? texts).map .init
  else none

end Command

namespace CommandLine

/-- One thing that a command line says before and with its command. -/
inductive Item
  | version
  | verbose
  | refused
  | command (name : Text) (arguments : List Text)
deriving DecidableEq, Repr

def Item.ofLetter (letter : Char) : Item :=
  if letter = 'V' then version else if letter = 'v' then verbose else refused

def Item.ofSwitch : Text → List Item
  | '-' :: '-' :: name =>
    if name = "version" then [version] else if name = "verbose" then [verbose] else [refused]
  | '-' :: letters => letters.map ofLetter
  | _ => [refused]

/-- What a command line says, up to its command. -/
def items : List Text → List Item
  | [] => []
  | text :: rest =>
    if Argument.isSwitches text then Item.ofSwitch text ++ items rest
    else [.command text rest]

/-- What the items ask for, unless they are refused. The switch `verbose` is given once at most. -/
def ofItems? (isVerbose : Bool) : List Item → Option CommandLine
  | [] | .refused :: _ => none
  | .version :: _ => some version
  | .verbose :: items => if isVerbose then none else ofItems? true items
  | .command name arguments :: _ => (Command.read? name arguments).map run

/-- What a command line asks for, unless it is refused. -/
def parse? (texts : List Text) : Option CommandLine := ofItems? false (items texts)

/-- How a run of the program ends. -/
inductive Ending
  | done
  | failed (failure : Failure)
  | refused
deriving DecidableEq, Repr

namespace Ending

/-- The code with which the program exits. -/
def exitCode : Ending → Nat
  | done => 0
  | failed _ => 1
  | refused => 2

def report : Ending → Picture
  | done => []
  | failed failure => .plain "\n" :: failure.picture ++ [.plain "\n\n"]
  | refused => [.plain "Usage: scigen [--verbose] <generate|check|init> [PATH] [OPTIONS]\n"]

end Ending

variable {m : Type → Type} [Monad m] [Host m]

def execute (cwd : Path) (texts : List Text) : m Ending := do
  match parse? texts with
  | none => return .refused
  | some .version =>
    Host.display [.plain "scigen 0.1.0\n"]
    return .done
  | some (.run command) =>
    match ← (command.run cwd).run with
    | .ok () => return .done
    | .error failure => return .failed failure

end CommandLine

end WrapperGen
