/-!
# The command line

A command line names one command, and may name a file with a configuration after it:
`compile`, `explain` or `shape`, and then `--config PATH` or `--config=PATH`. It may ask
for help or, before a command, for the version instead.

Arguments are looked at from left to right and the first refusal counts. The path of
`--config PATH` is not accepted before what follows it has been looked at: an argument
that is not known at all is refused first, while an option that is known, or the end of
the command line, settles the path.
-/

namespace RowQuery

/-- What the program can be told to do. -/
inductive Command where
  | compile
  | explain
  | shape
  deriving DecidableEq, Repr

/-- The command that a name stands for. -/
def Command.ofName? : String → Option Command
  | "compile" => some .compile
  | "explain" => some .explain
  | "shape" => some .shape
  | _ => none

/-- What a command line asks for. -/
structure Invocation where
  command : Command
  configPath : Option String
  deriving DecidableEq, Repr

/-- Why a command line does not lead to a command. -/
inductive Refusal where
  | noCommand
  /-- There is a word where a command is expected, and it is none. -/
  | unknownCommand
  /-- An argument has no meaning where it stands. -/
  | unknownArgument
  /-- The configuration is named without a path. -/
  | missingPath
  /-- The configuration is named twice. -/
  | repeatedPath
  /-- A value was given to an option that takes none. -/
  | surplusValue
  | helpRequested
  | versionRequested
  deriving DecidableEq, Repr

/-- An argument by its form. -/
inductive Argument where
  /-- The mark after which there are no options. -/
  | terminator
  /-- An option with a long name, and the value that is attached to it. -/
  | long (name : String) (value : Option String)
  /-- Options with short names, of which the first one counts. -/
  | short (letter : Char)
  /-- A word that is no option. -/
  | word (content : String)
  deriving DecidableEq, Repr

namespace Argument

/-- A long option, split at its first equals sign. -/
def ofLong (body : List Char) : Argument :=
  let name := String.ofList (body.takeWhile (· ≠ '='))
  match body.dropWhile (· ≠ '=') with
  | [] => .long name none
  | _ :: value => .long name (some (String.ofList value))

/-- The form of an argument. A dash alone is a word. -/
def ofText (text : String) : Argument :=
  match text.toList with
  | ['-', '-'] => .terminator
  | '-' :: '-' :: body => .ofLong body
  | '-' :: letter :: _ => .short letter
  | _ => .word text

end Argument

/-- The path that has been given and not been settled yet. -/
inductive PendingPath where
  /-- There is none. -/
  | absent
  /-- The option was named, and its path is expected next. -/
  | awaited
  /-- The path of the option. -/
  | given (path : String)
  deriving DecidableEq, Repr

namespace Invocation

/-- Accepts a path: it must be the only one and not be empty. -/
def accept (accepted : Option String) (path : String) : Except Refusal (Option String) :=
  if accepted.isSome then .error .repeatedPath
  else if path.isEmpty then .error .missingPath
  else .ok (some path)

/-- Settles the path that is pending. -/
def settle (accepted : Option String) : PendingPath → Except Refusal (Option String)
  | .absent => .ok accepted
  | .awaited => .error .missingPath
  | .given path => accept accepted path

/-- The path of the configuration, from the arguments after a command. -/
def readPath (accepted : Option String) (pending : PendingPath) :
    List String → Except Refusal (Option String)
  | [] => settle accepted pending
  | argument :: rest =>
      match Argument.ofText argument with
      | .terminator => if rest.isEmpty then settle accepted pending else .error .unknownArgument
      | .long "config" none => do
          let settled ← settle accepted pending
          readPath settled .awaited rest
      | .long "config" (some path) => do
          let settled ← settle accepted pending
          let accepted ← accept settled path
          readPath accepted .absent rest
      | .long "help" none => do
          let _ ← settle accepted pending
          throw .helpRequested
      | .long "help" (some _) => .error .surplusValue
      | .short 'h' => do
          let _ ← settle accepted pending
          throw .helpRequested
      | .word content =>
          match pending with
          | .awaited => readPath accepted (.given content) rest
          | _ => .error .unknownArgument
      | _ => .error .unknownArgument

/-- The name of the command that explains the others. -/
def helpName : String := "help"

/-- Whether a word stands for a command, the one for help included. -/
def isCommandName (word : String) : Bool := word = helpName || (Command.ofName? word).isSome

/-- The refusal of a command line that asks for help about the given words. -/
def readHelp : List String → Refusal
  | [] => .helpRequested
  | [word] => if isCommandName word then .helpRequested else .unknownCommand
  | _ => .unknownCommand

/-- The refusal of a command line that starts with the mark for the end of options. -/
def readTerminated : List String → Refusal
  | [] => .noCommand
  | word :: _ => if isCommandName word then .unknownArgument else .unknownCommand

/-- What arguments ask for. Options of the program itself stand before the name of a command. -/
def read : List String → Except Refusal Invocation
  | [] => .error .noCommand
  | first :: rest =>
      match Argument.ofText first with
      | .terminator => .error (readTerminated rest)
      | .long "help" none => .error .helpRequested
      | .long "help" (some _) => .error .surplusValue
      | .long "version" none => .error .versionRequested
      | .long "version" (some _) => .error .surplusValue
      | .short 'h' => .error .helpRequested
      | .short 'V' => .error .versionRequested
      | .word word =>
          if word = helpName then .error (readHelp rest)
          else
            match Command.ofName? word with
            | some command => do
                let path ← readPath none .absent rest
                pure ⟨command, path⟩
            | none => .error .unknownCommand
      | _ => .error .unknownArgument

end Invocation

end RowQuery
