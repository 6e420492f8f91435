import ContractBuild.Host.Path
import ContractBuild.Text.Digit

/-!
# Arguments

The grammar of the command line. Options may be shortened as long as they stay unambiguous,
their value may be attached by an equals sign, and after two dashes nothing is an option any
more. The word for the command hands all that follows over to the grammar of that command.

Words are read from left to right; a request for help ends the reading at once, and so does a
word that cannot be understood.
-/

set_option autoImplicit false

namespace ContractBuild

/-! ## Options -/

/-- An option: its names, and whether a value belongs to it. -/
structure OptionForm where
  names : List Text
  takesValue : Bool
  deriving DecidableEq, Repr

namespace OptionForm

/-- The request for help, which every grammar knows. -/
def help : OptionForm := ⟨["-h", "--help"], false⟩

/-- The directory of the log. -/
def logDirectory : OptionForm := ⟨["--log-dir"], true⟩

/-- The name of the project. -/
def projectName : OptionForm := ⟨["--name"], true⟩

/-- Whether the sandbox may stand in for the toolchain. -/
def fallback : OptionForm := ⟨["--fallback"], false⟩

end OptionForm

/-- How a word is understood on its own. -/
inductive ArgumentWord
  | plain
  /-- An option, with the value that is attached to it by an equals sign. -/
  | option (form : OptionForm) (attached : Option Text)
  /-- The short request for help, with more characters behind it. -/
  | cluster (tail : Text)
  | unknown
  | ambiguous
  deriving DecidableEq, Repr

namespace ArgumentWord

/-- A word cut at its first equals sign. -/
def cutAtEquals (word : Text) : Text × Option Text :=
  match word.span (· ≠ '=') with
  | (front, _ :: value) => (front, some value)
  | (front, []) => (front, none)

/-- The option with exactly this name. -/
def named? (forms : List OptionForm) (name : Text) : Option OptionForm :=
  forms.find? fun f => f.names.contains name

/-- The options with a name that begins so. -/
def shortened (forms : List OptionForm) (start : Text) : List OptionForm :=
  forms.flatMap fun f => (f.names.filter fun n => start.isPrefixOf n).map fun _ => f

/-- Whether a word is a negative number, which is no option. -/
def isNegativeNumber (word : Text) : Bool :=
  match word with
  | '-' :: rest =>
    let whole := rest.takeWhile Text.isDigit
    match rest.dropWhile Text.isDigit with
    | [] => !whole.isEmpty
    | '.' :: fraction => !fraction.isEmpty && fraction.all Text.isDigit
    | _ => false
  | _ => false

/-- How a word is understood that begins with a dash and is no known option. -/
def ofStrange (word : Text) : ArgumentWord :=
  if isNegativeNumber word || ' ' ∈ word then plain else unknown

/-- How a word is understood. -/
def read (forms : List OptionForm) (word : Text) : ArgumentWord :=
  let (front, attached) := cutAtEquals word
  match word with
  | '-' :: c :: tail =>
    match named? forms word with
    | some f => option f none
    | none =>
      match attached.bind fun _ => named? forms front with
      | some f => option f attached
      | none =>
        if c = '-' then
          match shortened forms front with
          | [] => ofStrange word
          | [f] => option f attached
          | _ => ambiguous
        else if (named? forms ['-', c]).isSome then cluster tail
        else ofStrange word
  | _ => plain

end ArgumentWord

/-! ## Reading words -/

/-- Why reading ends without an instruction. -/
inductive ArgumentFault
  | help
  | usage
  deriving DecidableEq, Repr

/-- The two dashes after which nothing is an option. -/
def dashes : Text := ['-', '-']

/-- The words that are read as options, before the dashes. -/
def optionWords (words : List Text) : List Text :=
  words.takeWhile (· ≠ dashes)

/-- Refuses words that are short for more than one option. -/
def refuseAmbiguous (forms : List OptionForm) (words : List Text) :
    Except ArgumentFault Unit :=
  if (optionWords words).any fun w => ArgumentWord.read forms w == .ambiguous then .error .usage
  else .ok ()

/-- What follows a short request for help in the same word: it may be repeated; a dash or an
equals sign is refused. -/
def clusterFault : Text → ArgumentFault
  | 'h' :: '=' :: _ => .usage
  | 'h' :: rest => clusterFault rest
  | '-' :: _ => .usage
  | _ => .help

/-- What the arguments of a command say. -/
structure CommandArguments where
  file : Option Text := none
  name : Option Text := none
  fallback : Bool := false
  /-- Whether there are words that mean nothing. -/
  strange : Bool := false
  deriving DecidableEq, Repr

namespace CommandArguments

/-- Takes an option whose value, if it has one, is known. -/
def take (a : CommandArguments) (form : OptionForm) (value : Text) : CommandArguments :=
  if form = .projectName then { a with name := some value }
  else if form = .fallback then { a with fallback := true }
  else a

/-- Takes a word that is no option. The first one names the file, if there is to be one. -/
def takePlain (takesFile : Bool) (a : CommandArguments) (word : Text) : CommandArguments :=
  if takesFile && a.file.isNone then { a with file := some word } else { a with strange := true }

/-- Takes the words after the dashes. The dashes belong to the word after them or, without
one, to the file before them. -/
def takeLiteral (takesFile : Bool) (a : CommandArguments) (fileBefore : Bool)
    (words : List Text) : CommandArguments :=
  let used := fileBefore || (takesFile && a.file.isNone && !words.isEmpty)
  words.foldl (takePlain takesFile) (if used then a else { a with strange := true })

/-- Reads words. `fileBefore` tells that the word before was taken as the file. -/
def read (forms : List OptionForm) (takesFile : Bool) (a : CommandArguments)
    (fileBefore : Bool) : List Text → Except ArgumentFault CommandArguments
  | [] => .ok a
  | word :: rest =>
    if word = dashes then .ok (a.takeLiteral takesFile fileBefore rest)
    else match ArgumentWord.read forms word with
      | .ambiguous => .error .usage
      | .unknown => read forms takesFile { a with strange := true } false rest
      | .cluster tail => .error (clusterFault tail)
      | .plain => read forms takesFile (a.takePlain takesFile word)
          (takesFile && a.file.isNone) rest
      | .option form attached =>
        if form = .help then .error (if attached.isNone then .help else .usage)
        else if form.takesValue then
          match attached, rest with
          | some value, rest => read forms takesFile (a.take form value) false rest
          | none, [] => .error .usage
          | none, value :: rest =>
            if value ≠ dashes ∧ ArgumentWord.read forms value = .plain then
              read forms takesFile (a.take form value) false rest
            else .error .usage
        else if attached.isSome then .error .usage
        else read forms takesFile (a.take form []) false rest

end CommandArguments

/-! ## Instructions -/

/-- What the program is told to do. -/
inductive Instruction
  | compile (file : Path) (name : Option Text) (fallback : Bool)
  | check (file : Path)
  | estimate (file : Path)
  | quote (file : Path)
  | doctor
  deriving DecidableEq, Repr

namespace Instruction

/-- The commands that need nothing but a file. -/
def fileCommands : List Text := ["check", "estimate", "quote"]

/-- The options that a command knows, and whether it works on a file; none for a word that is
no command. -/
def grammar? (command : Text) : Option (List OptionForm × Bool) :=
  if command = ("compile" : Text) then
    some ([.help, .projectName, .fallback], true)
  else if fileCommands.contains command then some ([.help], true)
  else if command = ("doctor" : Text) then some ([.help], false)
  else none

/-- The instruction for a command and its arguments. -/
def ofArguments? (command : Text) (a : CommandArguments) : Option Instruction :=
  if a.strange then none
  else if command = ("doctor" : Text) then some doctor
  else a.file.bind fun text =>
    let file := Path.ofText text
    if command = ("compile" : Text) then some (compile file a.name a.fallback)
    else if command = ("check" : Text) then some (check file)
    else if command = ("estimate" : Text) then some (estimate file)
    else if command = ("quote" : Text) then some (quote file)
    else none

/-- Reads the words behind the one for the command. -/
def read (command : Text) (words : List Text) : Except ArgumentFault Instruction := do
  let some (forms, takesFile) := grammar? command | .error .usage
  refuseAmbiguous forms words
  let a ← CommandArguments.read forms takesFile {} false words
  match ofArguments? command a with
  | some i => .ok i
  | none => .error .usage

end Instruction

/-- All that the command line says. -/
structure Arguments where
  logDirectory : Option Path := none
  instruction : Instruction
  deriving DecidableEq, Repr

namespace Arguments

/-- The options in front of the command. -/
def forms : List OptionForm := [.help, .logDirectory]

/-- Reads words. `strange` tells that there was an option that means nothing. -/
def readFrom (logDirectory : Option Path) (strange : Bool) :
    List Text → Except ArgumentFault Arguments
  | [] => .error .usage
  | word :: rest =>
    if word = dashes then .error .usage
    else match ArgumentWord.read forms word with
      | .ambiguous => .error .usage
      | .unknown => readFrom logDirectory true rest
      | .cluster tail => .error (clusterFault tail)
      | .plain =>
        (Instruction.read word rest).bind fun i =>
          if strange then .error .usage else .ok ⟨logDirectory, i⟩
      | .option form attached =>
        if form = .help then .error (if attached.isNone then .help else .usage)
        else match attached, rest with
          | some value, rest => readFrom (some (Path.ofText value)) strange rest
          | none, [] => .error .usage
          | none, value :: rest =>
            if value ≠ dashes ∧ ArgumentWord.read forms value = .plain then
              readFrom (some (Path.ofText value)) strange rest
            else .error .usage

/-- Reads the command line. -/
def read (words : List Text) : Except ArgumentFault Arguments := do
  refuseAmbiguous forms words
  readFrom none false words

end Arguments

end ContractBuild
