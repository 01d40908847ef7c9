import TensorLang.Cli.Flag
import TensorLang.Text.EditDistance
import TensorLang.Text.LetterCase

/-!
# Commands

The commands of the program, their flags and how many arguments they take, and how the command is
found in a command line. Flags may stand before the name of a command, so the search passes over
them and over the values that follow them.

* `resolve` finds the command. A name that no command has is an error, with the names that look
  alike.
* `Arity.problem?` tells whether the number of arguments is right.
-/

namespace TensorLang.Cli

/-- What a command does. -/
inductive Task where
  | parse
  | check
  | gen
  | fmt
  | build
  | clean
  | version
  /-- Tells how the program is used. -/
  | help
  deriving DecidableEq, Inhabited, Repr

/-- How many arguments a command takes. -/
inductive Arity where
  | any
  | none
  | exactly (n : Nat)
  | atMost (n : Nat)
  deriving DecidableEq, Inhabited, Repr

/-- A command. Its path begins with the name of the program. -/
structure Command where
  path : List String
  task : Task
  flags : List Flag := []
  arity : Arity := .any
  deriving DecidableEq, Inhabited, Repr

namespace Command

/-- The name of the program. -/
def programName : String := "tensa"

/-- The flags that every command has. -/
def commonFlags : List Flag :=
  [⟨"color", .text, none⟩, ⟨"quiet", .switch, none⟩, ⟨"timings", .switch, none⟩,
    ⟨"max-diagnostics", .number, none⟩, ⟨"config", .text, none⟩, ⟨"trace", .text, none⟩,
    ⟨"trace-level", .text, none⟩, ⟨"trace-mode", .text, none⟩, ⟨"trace-ring-size", .number, none⟩,
    ⟨"trace-heartbeat", .duration, none⟩, ⟨"cpu-profile", .text, none⟩,
    ⟨"mem-profile", .text, none⟩, ⟨"runtime-trace", .text, none⟩]

/-- The flag that asks for help. -/
def helpFlag : Flag := ⟨"help", .switch, some 104⟩

/-- The flag that asks for the version. -/
def versionFlag : Flag := ⟨"version", .switch, some 118⟩

/-- The program itself, without a command. -/
def root : Command := ⟨[programName], .help, [], .any⟩

/-- The commands directly below the program, in the order in which they are proposed. -/
def commands : List Command :=
  [⟨[programName, "parse"], .parse, [⟨"format", .text, none⟩, ⟨"jobs", .number, none⟩], .exactly 1⟩,
    ⟨[programName, "check"], .check,
      [⟨"format", .text, none⟩, ⟨"path-mode", .text, none⟩, ⟨"with-notes", .switch, none⟩,
        ⟨"warnings-as-errors", .switch, none⟩, ⟨"no-warnings", .switch, none⟩,
        ⟨"jobs", .number, none⟩], .exactly 1⟩,
    ⟨[programName, "gen"], .gen, [⟨"out", .text, some 111⟩, ⟨"no-cache", .switch, none⟩],
      .exactly 1⟩,
    ⟨[programName, "fmt"], .fmt, [⟨"write", .switch, some 119⟩, ⟨"check", .switch, none⟩],
      .exactly 1⟩,
    ⟨[programName, "build"], .build,
      [⟨"out", .text, none⟩, ⟨"jobs", .number, none⟩, ⟨"ui", .text, none⟩,
        ⟨"no-cache", .switch, none⟩, ⟨"warnings-as-errors", .switch, none⟩], .atMost 1⟩,
    ⟨[programName, "cache"], .help, [], .any⟩,
    ⟨[programName, "version"], .version, [⟨"format", .text, none⟩], .none⟩,
    ⟨[programName, "completion"], .help, [], .any⟩,
    ⟨[programName, "help"], .help, [], .any⟩]

/-- The commands below other commands. -/
def subcommands : List Command := [⟨[programName, "cache", "clean"], .clean, [], .none⟩]

/-- The last name of a command. -/
def name (c : Command) : String := c.path.getLast?.getD ""

/-- The path of a command as text. -/
def pathText (c : Command) : Bytes := Bytes.joinWith " ".utf8 (c.path.map String.utf8)

/-- The command of the given name directly below a command. -/
def child? (c : Command) (name : Bytes) : Option Command :=
  (commands ++ subcommands).find? fun d => d.path.dropLast == c.path && d.name.utf8 == name

/-- The flags that are known while the command is looked for. -/
def ownFlags (c : Command) : List Flag := c.flags ++ commonFlags

/-- The flags of a command. -/
def allFlags (c : Command) : List Flag :=
  c.ownFlags ++ [helpFlag] ++ (if c.path.length == 1 then [versionFlag] else [])

end Command

/-! ### Passing over flags -/

/-- Does a value follow this argument? That holds for a flag that is no switch, also for an unknown
one, unless the value is part of the argument. -/
def needsNext (flags : List Flag) (text : Bytes) : Bool :=
  !List.contains text Flag.equals &&
    match Bytes.dropPrefix? Flag.dashes text with
    | some name => !flags.any fun f => f.name.utf8 == name && f.kind == .switch
    | none =>
      text.length == 2 && text.head? == some 45 &&
        !flags.any fun f => f.letter == text.getLast? && f.kind == .switch

/-- The arguments that are neither flags nor values of flags. -/
def plainArgs (flags : List Flag) : List Bytes → List Bytes
  | [] => []
  | text :: rest =>
    if text == Flag.dashes then []
    else if needsNext flags text then
      match rest with
      | _ :: next :: later => plainArgs flags (next :: later)
      | _ => []
    else if text.isEmpty || text.head? == some 45 then plainArgs flags rest
    else text :: plainArgs flags rest

/-- The arguments without the first plain one that equals `name`. -/
def dropName (flags : List Flag) (name : Bytes) : List Bytes → List Bytes
  | [] => []
  | text :: rest =>
    if text == Flag.dashes then text :: rest
    else if needsNext flags text then
      match rest with
      | value :: later => text :: value :: dropName flags name later
      | [] => [text]
    else if text == name && text.head? != some 45 then rest
    else text :: dropName flags name rest

/-! ### Finding the command -/

/-- A name that no command has. -/
structure UnknownCommand where
  name : Bytes
  /-- Where it was looked for. -/
  parent : Command
  deriving DecidableEq, Inhabited, Repr

namespace UnknownCommand

/-- How many edits away a name still looks alike. -/
def nearby : Nat := 2

/-- Does the name of a command look like what was typed? -/
def isAlike (typed : Bytes) (c : Command) : Bool :=
  Text.editDistance (Text.lower typed) c.name.utf8 ≤ nearby ||
    Bytes.startsWith c.name.utf8 (Text.lower typed)

/-- The commands that look like what was typed. Help is never proposed. -/
def alike (typed : Bytes) : List Command :=
  Command.commands.filter fun c => c.name != "help" && isAlike typed c

/-- What is said about an unknown name. -/
def message (e : UnknownCommand) : Bytes :=
  "unknown command ".utf8 ++ Quoted.string e.name ++ " for ".utf8 ++ Quoted.string e.parent.pathText

/-- The names that look alike, one a line. -/
def proposals (e : UnknownCommand) : Bytes :=
  match alike e.name with
  | [] => []
  | cs =>
    "\n\nDid you mean this?\n".utf8 ++ cs.flatMap fun c => "\t".utf8 ++ c.name.utf8 ++ "\n".utf8

end UnknownCommand

/-- Goes down from a command as long as names of commands follow. Every step takes a name away, so
the number of arguments is enough fuel. -/
def descend : (fuel : Nat) → Command → List Bytes → Command × List Bytes
  | 0, c, texts => (c, texts)
  | fuel + 1, c, texts =>
    match (plainArgs c.ownFlags texts).head?.bind c.child? with
    | some d => descend fuel d (dropName c.ownFlags d.name.utf8 texts)
    | none => (c, texts)

/-- Finds the command and the arguments that are left for it. -/
def resolve (texts : List Bytes) : Except UnknownCommand (Command × List Bytes) :=
  match descend texts.length Command.root texts with
  | (c, texts) =>
    match (plainArgs c.ownFlags texts).head? with
    | some name => if c == Command.root then .error ⟨name, c⟩ else .ok (c, texts)
    | none => .ok (c, texts)

/-! ### Numbers of arguments -/

/-- What is wrong with the number of arguments. -/
def Arity.problem? (c : Command) (args : List Bytes) : Option Bytes :=
  let received := ", received ".utf8 ++ Decimal.ofNat args.length
  match c.arity, args with
  | .any, _ => Option.none
  | .none, [] => Option.none
  | .none, arg :: _ => some (UnknownCommand.message ⟨arg, c⟩)
  | .exactly n, _ =>
    if args.length == n then Option.none
    else some ("accepts ".utf8 ++ Decimal.ofNat n ++ " arg(s)".utf8 ++ received)
  | .atMost n, _ =>
    if args.length ≤ n then Option.none
    else some ("accepts at most ".utf8 ++ Decimal.ofNat n ++ " arg(s)".utf8 ++ received)

end TensorLang.Cli
