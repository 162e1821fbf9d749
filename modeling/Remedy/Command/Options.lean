import Remedy.Command.Reading
import Remedy.Outcome
import Remedy.Settings.Error

/-!
The commands of the program and their options, read from a command line. A command line names at
most one command; words that neither the program nor the command has a place for are a mistake of
the whole line.
-/

namespace Remedy.Command

inductive OptionKey where
  | help
  | version
  | config
  | root
  | baseRef
  | category
  | format
  | output
  | verbose
  | quiet
  | noColor
  | provider
  | model
  | dryRun
  | failOnError
  | changed
  | force
  deriving Repr, DecidableEq

structure CommonOptions where
  config : Option String
  root : String
  baseRef : Option String
  categories : List String
  format : Option String
  output : Option String
  verbose : Bool
  quiet : Bool
  noColor : Bool
  deriving Repr, DecidableEq

structure FixOptions where
  common : CommonOptions
  paths : List String
  provider : Option String
  model : Option String
  dryRun : Bool
  failOnError : Bool
  deriving Repr, DecidableEq

structure ScanOptions where
  common : CommonOptions
  paths : List String
  changed : Bool
  deriving Repr, DecidableEq

inductive Invocation where
  | overview
  | fix (options : FixOptions)
  | scan (options : ScanOptions)
  | init (force : Bool)
  deriving Repr, DecidableEq

def programName : String := "securityagent"

def programVersion : String := "1.0.0"

namespace OptionRule

def flag (key : OptionKey) (names : List String) : OptionRule OptionKey :=
  ⟨key, names, .nothing⟩

def valued (key : OptionKey) (names : List String) : OptionRule OptionKey :=
  ⟨key, names, .value []⟩

def oneOf (key : OptionKey) (names choices : List String) : OptionRule OptionKey :=
  ⟨key, names, .value choices⟩

def help : OptionRule OptionKey := ⟨.help, ["-h", "--help"], .stop⟩

def common : List (OptionRule OptionKey) :=
  [valued .config ["-c", "--config"], valued .root ["--root"], valued .baseRef ["--base-ref"],
    oneOf .category ["--category"] (Category.all.map Category.name),
    oneOf .format ["-f", "--format"] ["text", "json"], valued .output ["-o", "--output"],
    flag .verbose ["-v", "--verbose"], flag .quiet ["-q", "--quiet"],
    flag .noColor ["--no-color"]]

end OptionRule

inductive Verb where
  | fix
  | scan
  | init
  deriving Repr, DecidableEq

namespace Verb

def all : List Verb := [fix, scan, init]

def word : Verb → String
  | fix => "fix"
  | scan => "scan"
  | init => "init"

def ofWord? (word : String) : Option Verb :=
  all.find? fun verb => verb.word = word

def grammar : Verb → Grammar OptionKey
  | fix =>
    ⟨OptionRule.help :: OptionRule.common ++
      [.oneOf .provider ["--provider"] SettingsError.providerNames, .valued .model ["--model"],
        .flag .dryRun ["--dry-run"], .flag .failOnError ["--fail-on-error"]], .many⟩
  | scan =>
    ⟨OptionRule.help :: OptionRule.common ++ [.flag .changed ["--changed"]], .many⟩
  | init => ⟨[OptionRule.help, .flag .force ["-f", "--force"]], .absent⟩

end Verb

/-- A part of the program that reads a part of the command line: the program itself, what stands
before a command, and each command, what follows it. -/
inductive Part where
  | program
  | command (verb : Verb)
  deriving Repr, DecidableEq

namespace Part

def name : Part → String
  | program => programName
  | command verb => programName ++ " " ++ verb.word

def grammar : Part → Grammar OptionKey
  | program => ⟨[OptionRule.help, ⟨.version, ["--version"], .stop⟩], .command⟩
  | command verb => verb.grammar

end Part

/-- Why a command line asks for nothing to be done: help on a part or the version is shown, or a
part found a mistake. -/
inductive Dismissal where
  | help (part : Part)
  | version
  | mistaken (part : Part) (mistake : Mistake)
  deriving Repr, DecidableEq

namespace Reading

def isGiven (reading : Reading OptionKey) (key : OptionKey) : Bool :=
  reading.given.any fun g => g.key = key

def values (reading : Reading OptionKey) (key : OptionKey) : List String :=
  reading.given.filterMap fun g => if g.key = key then g.value else none

def value? (reading : Reading OptionKey) (key : OptionKey) : Option String :=
  (reading.values key).getLast?

def common (reading : Reading OptionKey) : CommonOptions :=
  ⟨reading.value? .config, (reading.value? .root).getD ".", reading.value? .baseRef,
    reading.values .category, reading.value? .format, reading.value? .output,
    reading.isGiven .verbose, reading.isGiven .quiet, reading.isGiven .noColor⟩

def invocation (reading : Reading OptionKey) : Verb → Invocation
  | .fix =>
    .fix ⟨reading.common, reading.operands, reading.value? .provider, reading.value? .model,
      reading.isGiven .dryRun, reading.isGiven .failOnError⟩
  | .scan => .scan ⟨reading.common, reading.operands, reading.isGiven .changed⟩
  | .init => .init (reading.isGiven .force)

end Reading

def Refusal.dismissal (part : Part) : Refusal OptionKey → Dismissal
  | .mistake cause => .mistaken part cause
  | .stop .version => .version
  | .stop _ => .help part

def Part.read (part : Part) (line : List String) : Except Dismissal (Reading OptionKey) :=
  (part.grammar.read line).mapError (Refusal.dismissal part)

namespace Invocation

def unlessExtra (invocation : Invocation) (extras : List String) :
    Except Dismissal Invocation :=
  if extras.isEmpty then .ok invocation
  else .error (.mistaken .program (.unrecognized extras))

/-- What a command asks for with the words after it; `extras` are the words before it that have no
place. -/
def ofCommand (word : String) (line extras : List String) : Except Dismissal Invocation :=
  match Verb.ofWord? word with
  | none =>
    .error (.mistaken .program (.badChoice ["command"] word (Verb.all.map Verb.word)))
  | some verb =>
    match (Part.command verb).read line with
    | .error dismissal => .error dismissal
    | .ok reading => (reading.invocation verb).unlessExtra (extras ++ reading.extras)

def ofLine (line : List String) : Except Dismissal Invocation :=
  match Part.program.read line with
  | .error dismissal => .error dismissal
  | .ok ⟨_, [], extras⟩ => overview.unlessExtra extras
  | .ok ⟨_, word :: rest, extras⟩ => ofCommand word rest extras

end Invocation

end Remedy.Command
