import TensorLang.Text.Numeral
import TensorLang.Text.Quoted
import TensorLang.Time.Duration

/-!
# Flags

The flags of a command line. A flag has a name behind two dashes, and some have a letter behind one
dash. Its value follows an equals sign or is the next argument; a switch needs no value. Letters of
switches can be written together. Everything else is an argument of the command, and so is
everything behind two dashes that stand alone.

* `Flag.parse` reads a command line. The last value of a flag counts.
* `FlagError.message` tells what is wrong with a command line.
-/

namespace TensorLang.Cli

/-- What a flag takes. -/
inductive FlagKind where
  | text
  | switch
  | number
  | duration
  deriving DecidableEq, Inhabited, Repr

/-- The value of a flag. -/
inductive FlagValue where
  | text (value : Bytes)
  | switch (value : Bool)
  | number (value : Int)
  | duration (value : Int)
  deriving DecidableEq, Inhabited, Repr

/-- A flag. -/
structure Flag where
  name : String
  kind : FlagKind
  letter : Option UInt8 := none
  deriving DecidableEq, Inhabited, Repr

/-- What is wrong with a command line. -/
inductive FlagError where
  | unknown (name : Bytes)
  /-- A letter that no flag has, and the letters from it on. -/
  | unknownLetter (letter : UInt8) (letters : Bytes)
  | noValue (name : Bytes)
  | noLetterValue (letter : UInt8) (letters : Bytes)
  | badSyntax (argument : Bytes)
  | badValue (value : Bytes) (flag : Flag) (cause : Bytes)
  deriving DecidableEq, Inhabited, Repr

namespace FlagError

/-- The code point that is shown for a letter: of a byte beyond ASCII the first byte of its two-byte
encoding. -/
def shownCode (letter : UInt8) : Nat :=
  if letter < 0x80 then letter.toNat else if letter < 0xC0 then 0xC2 else 0xC3

/-- All spellings of a flag. -/
def spelling (f : Flag) : Bytes :=
  (match f.letter with
    | some letter => "-".utf8 ++ [letter] ++ ", ".utf8
    | none => []) ++ "--".utf8 ++ f.name.utf8

/-- What is said about an error. -/
def message : FlagError → Bytes
  | unknown name => "unknown flag: --".utf8 ++ name
  | unknownLetter letter letters =>
    "unknown shorthand flag: ".utf8 ++ Quoted.code (shownCode letter) ++ " in -".utf8 ++ letters
  | noValue name => "flag needs an argument: --".utf8 ++ name
  | noLetterValue letter letters =>
    "flag needs an argument: ".utf8 ++ Quoted.code (shownCode letter) ++ " in -".utf8 ++ letters
  | badSyntax argument => "bad flag syntax: ".utf8 ++ argument
  | badValue value flag cause =>
    "invalid argument ".utf8 ++ Quoted.string value ++ " for ".utf8 ++
      Quoted.string (spelling flag) ++ " flag: ".utf8 ++ cause

end FlagError

namespace FlagKind

/-- The spellings of truth values. -/
def truthValues : List (String × Bool) :=
  [("1", true), ("t", true), ("T", true), ("TRUE", true), ("true", true), ("True", true),
    ("0", false), ("f", false), ("F", false), ("FALSE", false), ("false", false), ("False", false)]

/-- What is said about a value that cannot be read. -/
def cause (reader : String) (text problem : Bytes) : Bytes :=
  "strconv.".utf8 ++ reader.utf8 ++ ": parsing ".utf8 ++ Quoted.string text ++ ": ".utf8 ++ problem

/-- Reads a value, or tells why it cannot be read. -/
def read (k : FlagKind) (text : Bytes) : Except Bytes FlagValue :=
  match k with
  | .text => .ok (.text text)
  | switch =>
    match truthValues.find? fun v => v.1.utf8 == text with
    | some v => .ok (.switch v.2)
    | none => .error (cause "ParseBool" text Numeral.Fault.malformed.text)
  | number =>
    match Numeral.read text with
    | .ok n => .ok (.number n)
    | .error f => .error (cause "ParseInt" text f.text)
  | duration =>
    match Duration.read text with
    | .ok d => .ok (.duration d)
    | .error f => .error (f.message text)

end FlagKind

/-- The values of flags that were given, the last one first. -/
abbrev Settings := List (String × FlagValue)

namespace Settings

/-- Was the flag given? -/
def has (s : Settings) (name : String) : Bool := (s.lookup name).isSome

/-- The text of a flag. -/
def text (s : Settings) (name : String) (standard : String) : Bytes :=
  match s.lookup name with
  | some (.text b) => b
  | _ => standard.utf8

/-- Is a switch on? -/
def isOn (s : Settings) (name : String) : Bool :=
  match s.lookup name with
  | some (.switch b) => b
  | _ => false

/-- The number of a flag. -/
def number (s : Settings) (name : String) (standard : Int) : Int :=
  match s.lookup name with
  | some (.number n) => n
  | _ => standard

end Settings

/-- A command line that was read: the values of flags and the arguments. -/
structure CommandLine where
  settings : Settings := []
  args : List Bytes := []
  deriving DecidableEq, Inhabited, Repr

namespace Flag

/-- The equals sign. -/
def equals : UInt8 := 61

/-- Two dashes. -/
def dashes : Bytes := "--".utf8

/-- Is the text the argument of a command? A dash alone is. -/
def isArgument (text : Bytes) : Bool := text.head? != some 45 || text.length == 1

/-- A value for a flag. -/
def setting (f : Flag) (text : Bytes) : Except FlagError (String × FlagValue) :=
  match f.kind.read text with
  | .ok v => .ok (f.name, v)
  | .error cause => .error (.badValue text f cause)

/-- The value of a switch that is only mentioned. -/
def mentioned : Bytes := "true".utf8

/-- Reads `--name` or `--name=value`, given without the dashes. The answer tells whether the next
argument was taken. -/
def readLong (flags : List Flag) (body : Bytes) (next : Option Bytes) :
    Except FlagError (Settings × Bool) :=
  let name := body.takeWhile (· != equals)
  if name.isEmpty || name.head? == some 45 then .error (.badSyntax (dashes ++ body))
  else
    match flags.find? fun f => f.name.utf8 == name with
    | none => .error (.unknown name)
    | some f =>
      let given (text : Bytes) (tookNext : Bool) : Except FlagError (Settings × Bool) :=
        (f.setting text).map fun s => ([s], tookNext)
      match body.drop name.length, next with
      | _ :: value, _ => given value false
      | [], some value => if f.kind == .switch then given mentioned false else given value true
      | [], none => if f.kind == .switch then given mentioned false else .error (.noValue name)

/-- Reads letters behind one dash. Letters of a test run are passed over. -/
def readLetters (flags : List Flag) (next : Option Bytes) :
    Bytes → Except FlagError (Settings × Bool)
  | [] => .ok ([], false)
  | letter :: rest =>
    let letters := letter :: rest
    if Bytes.startsWith letters "test.".utf8 then .ok ([], false)
    else
      match flags.find? fun f => f.letter == some letter with
      | none => .error (.unknownLetter letter letters)
      | some f =>
        let given (text : Bytes) (tookNext : Bool) : Except FlagError (Settings × Bool) :=
          (f.setting text).map fun s => ([s], tookNext)
        if rest.head? == some equals && 2 ≤ rest.length then given (rest.drop 1) false
        else if f.kind == .switch then do
          let s ← f.setting mentioned
          let (more, tookNext) ← readLetters flags next rest
          .ok (more ++ [s], tookNext)
        else if !rest.isEmpty then given rest false
        else
          match next with
          | some value => given value true
          | none => .error (.noLetterValue letter letters)

/-- Reads one argument that begins with a dash. -/
def readFlag (flags : List Flag) (text : Bytes) (next : Option Bytes) :
    Except FlagError (Settings × Bool) :=
  match Bytes.dropPrefix? dashes text with
  | some body => readLong flags body next
  | none => readLetters flags next (text.drop 1)

/-- Reads the rest of a command line. -/
def parseFrom (flags : List Flag) (line : CommandLine) : List Bytes → Except FlagError CommandLine
  | [] => .ok line
  | text :: rest =>
    if isArgument text then parseFrom flags { line with args := line.args ++ [text] } rest
    else if text == dashes then .ok { line with args := line.args ++ rest }
    else
      match readFlag flags text rest.head? with
      | .error e => .error e
      | .ok (settings, tookNext) =>
        let line := { line with settings := settings ++ line.settings }
        match rest with
        | next :: later =>
          if tookNext then parseFrom flags line later else parseFrom flags line (next :: later)
        | [] => .ok line

/-- Reads a command line. -/
def parse (flags : List Flag) (texts : List Bytes) : Except FlagError CommandLine :=
  parseFrom flags {} texts

end Flag

end TensorLang.Cli
