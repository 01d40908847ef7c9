import TensorLang.Cli.Produce
import TensorLang.Version

/-!
# The program

One run of the program from the command line to its end. The command is found first, then its flags
are read, then what is common to all commands is prepared, and then the command does its work.

* `run` is a whole run.
* A run that fails tells why and ends with status one; so does, without another word, a run that has
  shown errors in sources.
-/

namespace TensorLang.Cli

/-! ### Telling about the program -/

/-- The lines of a section of a help screen. -/
def helpSection (title : String) (lines : List Bytes) : Bytes :=
  if lines.isEmpty then []
  else "\n".utf8 ++ title.utf8 ++ ":\n".utf8 ++ lines.flatMap fun l => "  ".utf8 ++ l ++ "\n".utf8

/-- How a command is used. -/
def helpText (c : Command) : Bytes :=
  let below := (Command.commands ++ Command.subcommands).filter fun d => d.path.dropLast == c.path
  "Usage:\n  ".utf8 ++ c.pathText ++ (if below.isEmpty then [] else " [command]".utf8) ++
    " [flags]\n".utf8 ++
    helpSection "Available Commands" (below.map fun d => d.name.utf8) ++
    helpSection "Flags" (c.allFlags.map FlagError.spelling)

/-- The version as a JSON document. -/
def versionJson (v : Version) : Json :=
  let given (key : String) (text : Bytes) : List (String × Json) :=
    if (Text.trim text).isEmpty then [] else [(key, .string (Text.trim text))]
  Json.record ([("tool", .string Command.programName.utf8), ("version", .string v.number)] ++
    given "git_commit" v.commit ++ given "git_message" v.message ++ given "build_date" v.date)

/-- Tells the version. -/
def versionTask (s : Settings) : Action Unit :=
  let format := s.text "format" "pretty"
  let v : Version := {}
  if Text.lower format == "pretty".utf8 then say (v.describe (usesColor s) (usesColor s))
  else if Text.lower format == "json".utf8 then say (versionJson v).document
  else fail ("unsupported format ".utf8 ++ Quoted.string format ++ " (must be pretty or json)".utf8)

/-- The line that the version flag prints. -/
def versionLine : Bytes :=
  Command.programName.utf8 ++ " version ".utf8 ++ ({} : Version).number ++ "\n".utf8

/-! ### Preparations -/

/-- Refuses a colour setting that does not exist. -/
def checkColor (s : Settings) : Action Unit :=
  let value := s.text "color" "auto"
  if (["on", "off", "auto"].map String.utf8).contains value then pure ()
  else fail ("invalid --color value ".utf8 ++ Quoted.string value ++ " (expected auto|on|off)".utf8)

/-- Makes an empty file, if a path is given. -/
def makeFile (path : Bytes) (problem : String) : Action Unit := do
  if !path.isEmpty then
    match ← writeFile path [] with
    | .ok () => pure ()
    | .error f => fail (problem.utf8 ++ ": ".utf8 ++ f.message)

/-- Begins profiles. What is measured is no part of this description, so profiles are empty. -/
def startProfiles (s : Settings) : Action Unit := do
  makeFile (s.text "cpu-profile" "") "failed to start cpu profile"
  makeFile (s.text "runtime-trace" "") "failed to start trace"
  modify fun p => { p with memoryProfile := s.text "mem-profile" "" }

/-- The level of the trace. An output without a level asks for phases. -/
def traceLevel (s : Settings) : Action Trace.Level := do
  let level ← orFail ((Trace.Level.parse (s.text "trace-level" "off")).mapError fun m =>
    "invalid trace level: ".utf8 ++ m)
  pure (if level == .off && !(s.text "trace" "").isEmpty then .phase else level)

/-- The output of a trace: the standard error output unless a file is named, which is made here. -/
def openTrace (path : Bytes) : Action TraceOutput := do
  if path.isEmpty || path == "-".utf8 then pure .errors
  else
    makeFile path "failed to create tracer: failed to open trace output"
    pure (.file path)

/-- Begins the trace. -/
def startTrace (s : Settings) : Action Unit := do
  let level ← traceLevel s
  let mode ← orFail ((Trace.Mode.parse (s.text "trace-mode" "ring")).mapError fun m =>
    "invalid trace mode: ".utf8 ++ m)
  let path := s.text "trace" ""
  let output ← if level.isOn && mode.writes then openTrace path else pure .errors
  let tracer ← orFail
    (Trace.Tracer.create level mode.text .auto path (s.number "trace-ring-size" 4096) {})
  modify fun p => { p with session := { tracer }, traceOutput := output }

/-- Prepares what is common to all commands. -/
def prepare (s : Settings) : Action Unit := do
  checkColor s
  startProfiles s
  startTrace s

/-! ### A run -/

/-- The work of a command. -/
def perform (c : Command) (line : CommandLine) : Action Unit :=
  let s := line.settings
  let path := line.args.headD []
  match c.task with
  | .parse => parseTask s path
  | .check => checkTask s path
  | .gen => genTask s path
  | .fmt => fmtTask s path
  | .build => buildTask s line.args.head?
  | .clean => cleanTask s
  | .version => versionTask s
  | .help => say (helpText c)

/-- Everything that a command line asks for. Help and version are told before anything is
prepared. -/
def execute (args : List Bytes) : Action Unit :=
  match resolve args with
  | .error e => fail (e.message ++ e.proposals)
  | .ok (c, rest) =>
    match Flag.parse c.allFlags rest with
    | .error e => fail e.message
    | .ok line =>
      if line.settings.isOn "help" then say (helpText c)
      else if line.settings.isOn "version" then say versionLine
      else if c.task == .help then say (helpText c)
      else
        match Arity.problem? c line.args with
        | some message => fail message
        | none => do
          prepare line.settings
          perform c line

/-- Writes the memory profile. A failure is only mentioned. -/
def Process.closeProfiles (p : Process) : Process :=
  if p.memoryProfile.isEmpty then p
  else
    match p.tree.write p.memoryProfile [] with
    | .ok tree => { p with tree }
    | .error f =>
      { p with stderr :=
        p.stderr ++ "profile: failed to write heap profile: ".utf8 ++ f.message ++ "\n".utf8 }

/-- The status of a run and what it says at last. -/
def Stop.ending : Stop → Nat × Bytes
  | failed message => (1, "error: ".utf8 ++ message ++ "\n".utf8)
  | foundErrors => (1, [])
  | broken => (2, [])

/-- Runs the program in a file tree. -/
def run (surroundings : Surroundings) (tree : Storage.Tree) (args : List Bytes) : Ending :=
  let (result, p) := (execute args).run.run { tree, surroundings }
  let p := p.closeProfiles
  let (status, last) := match result with
    | .ok () => (0, [])
    | .error stop => stop.ending
  ⟨status, p.stdout, p.stderr ++ last, p.tree⟩

end TensorLang.Cli
