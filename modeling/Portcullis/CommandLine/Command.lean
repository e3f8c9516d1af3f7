import Portcullis.Text.Affix
/-! Commands and how they are spelled.

A command is a word followed by operands and options in any order. An option is two
hyphens and a name, and takes a value: behind an equals sign, or as the next argument if
that does not look like an option itself. Behind two hyphens alone everything is an
operand. What is spelled in another way is no command. -/
namespace Portcullis.CommandLine

inductive Command where
  /-- List what a policy document comes to. -/
  | check (policy : String)
  /-- Decide a request against a policy document. -/
  | evaluate (policy principal action resource : String)
  /-- Ask the generator for a policy and decide a request against it. -/
  | generate (settings agentId task level : String) (roles : List String)
      (principal action resource : String)
  /-- Run the scenarios. -/
  | scenarios
  deriving DecidableEq, Repr

/-! ### Arguments -/

/-- Arguments sorted into operands and options. -/
structure Arguments where
  operands : List String
  options : List (String × String)
  deriving DecidableEq, Repr

namespace Arguments

def none : Arguments := ⟨[], []⟩

def withOperand (operand : String) (a : Arguments) : Arguments :=
  {a with operands := operand :: a.operands}

def withOption (name value : String) (a : Arguments) : Arguments :=
  {a with options := (name, value) :: a.options}

/-- An argument with a hyphen before other characters. -/
def looksLikeOption (argument : String) : Bool :=
  match argument.toList with
  | '-' :: _ :: _ => true
  | _ => false

/-- The name of an option, and its value if an equals sign gives one. -/
def option? (argument : String) : Option (String × Option String) :=
  (Text.after? ['-', '-'] argument.toList).map fun text =>
    let name := String.ofList (text.takeWhile (· ≠ '='))
    match text.dropWhile (· ≠ '=') with
    | [] => (name, Option.none)
    | _ :: value => (name, some (String.ofList value))

/-- Sort arguments; options other than those named are not allowed. -/
def ofList? (names : List String) : List String → Option Arguments
  | [] => some none
  | argument :: rest =>
    if argument = "--" then some ⟨rest, []⟩
    else
      match option? argument with
      | some (name, value) =>
        if names.contains name then
          match value, rest with
          | some value, rest => (ofList? names rest).map (withOption name value)
          | Option.none, value :: rest =>
            if looksLikeOption value then Option.none
            else (ofList? names rest).map (withOption name value)
          | Option.none, [] => Option.none
        else Option.none
      | Option.none =>
        if looksLikeOption argument then Option.none
        else (ofList? names rest).map (withOperand argument)

/-- The values an option was given, in order. -/
def all (a : Arguments) (name : String) : List String :=
  (a.options.filter fun option => option.1 = name).map Prod.snd

/-- The value of an option that has to be given, and only once. -/
def required? (a : Arguments) (name : String) : Option String :=
  match a.all name with
  | [value] => some value
  | _ => Option.none

/-- The value of an option that may be given once. -/
def optional? (a : Arguments) (name fallback : String) : Option String :=
  match a.all name with
  | [] => some fallback
  | [value] => some value
  | _ => Option.none

/-- The only operand. -/
def operand? (a : Arguments) : Option String :=
  match a.operands with
  | [operand] => some operand
  | _ => Option.none

end Arguments

/-! ### Commands -/

/-- A path is not empty. -/
def path? (text : String) : Option String := if text.isEmpty then none else some text

/-- The command that arguments spell. -/
def Command.ofList? : List String → Option Command
  | [] => none
  | word :: rest =>
    if word = "check" then do
      let a ← Arguments.ofList? [] rest
      return .check (← path? (← a.operand?))
    else if word = "evaluate" then do
      let a ← Arguments.ofList? ["principal", "action", "resource"] rest
      return .evaluate (← path? (← a.operand?)) (← a.required? "principal")
        (← a.required? "action") (← a.optional? "resource" "*")
    else if word = "generate" then do
      let a ← Arguments.ofList? ["config", "agent-id", "task", "auth-level", "role", "principal",
        "action", "resource"] rest
      guard a.operands.isEmpty
      return .generate (← path? (← a.required? "config")) (← a.required? "agent-id")
        (← a.required? "task") (← a.optional? "auth-level" "basic") (a.all "role")
        (← a.required? "principal") (← a.required? "action") (← a.optional? "resource" "*")
    else if word = "scenarios" then do
      let a ← Arguments.ofList? [] rest
      guard a.operands.isEmpty
      return .scenarios
    else none

end Portcullis.CommandLine
