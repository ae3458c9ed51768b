import Symbolizer.Address
import Symbolizer.Table.Builder

set_option autoImplicit false

namespace Symbolizer

inductive Command where
  | dump (json : Bool)
  | lookup (addresses : List Address)
  | check
  deriving DecidableEq, Repr

structure Arguments where
  source : Text
  quiet : Bool
  skipBaseKernel : Bool
  command : Command
  deriving DecidableEq, Repr

def Arguments.buildOptions (arguments : Arguments) : BuildOptions :=
  { skipBaseKernel := arguments.skipBaseKernel }

def defaultSource : Text := "/proc/kallsyms".toList

inductive UsageError where
  | unknownArgument
  | unknownSubcommand
  | unreadableValue
  | missingValue
  | missingAddress
  | missingSubcommand
  | repeatedArgument
  | unexpectedValue
  | helpAsked
  | nothingAsked
  deriving DecidableEq, Repr

def helpText : Text :=
  ("Resolve kernel fault addresses to module symbols\n\n" ++
    "Usage: ksym [OPTIONS] <COMMAND>\n\n" ++
    "Commands:\n" ++
    "  dump    Print every module and symbol of the loaded table\n" ++
    "  lookup  Resolve addresses to `module:symbol+offset/size`\n" ++
    "  check   Load the table and report what was found\n" ++
    "  help    Print this message\n\n" ++
    "Options:\n" ++
    "      --source <PATH>     Symbol list to load (kallsyms format) [default: /proc/kallsyms]\n" ++
    "      --skip-base-kernel  Ignore base kernel symbols, keep only module symbols\n" ++
    "  -q, --quiet             Suppress non-essential output\n" ++
    "      --json              Emit JSON instead of text (dump)\n" ++
    "  -h, --help              Print help\n\n" ++
    "EXAMPLES:\n" ++
    "    sudo ksym lookup ffffffffc0a1b042         Resolve one address\n" ++
    "    sudo ksym dump --json > symbols.json      Export the module symbol table\n" ++
    "    ksym --source ./kallsyms.txt lookup 0x220 Resolve against a saved symbol list\n").toList

namespace UsageError

def reason : UsageError → Text
  | .unknownArgument => "unexpected argument".toList
  | .unknownSubcommand => "unrecognized subcommand".toList
  | .unreadableValue => "invalid value for an address".toList
  | .missingValue => "a value is required for '--source <PATH>'".toList
  | .missingAddress => "the addresses to look up were not provided".toList
  | .missingSubcommand => "a subcommand is required but was not provided".toList
  | .repeatedArgument => "an argument cannot be used multiple times".toList
  | .unexpectedValue => "unexpected value for a flag".toList
  | .helpAsked => "help was asked for".toList
  | .nothingAsked => "nothing was asked for".toList

def message : UsageError → Text
  -- Help is shown on its own, whether it was asked for or nothing was.
  | .helpAsked | .nothingAsked => helpText
  | usage => "error: ".toList ++ usage.reason ++ ['\n']

def status : UsageError → Nat
  | .helpAsked => 0
  | _ => 2

end UsageError

inductive Verb where
  | dump
  | lookup
  | check
  deriving DecidableEq, Repr

def Verb.named? (word : Text) : Option Verb :=
  if word = "dump".toList then some .dump
  else if word = "lookup".toList then some .lookup
  else if word = "check".toList then some .check
  else none

def helpWord : Text := "help".toList

inductive Pending where
  | nothing
  | sourceAwaited
  | source (path : Text)
  | addresses (words : List Text)
  deriving DecidableEq, Repr

/-- The reading of one level; the top level has no verb. -/
structure Scan where
  verb : Option Verb
  source : Option Text := none
  quiet : Bool := false
  skipBaseKernel : Bool := false
  json : Bool := false
  addresses : List Address := []
  pending : Pending := .nothing
  trailing : Bool := false
  deriving DecidableEq, Repr

inductive Flag where
  | quiet
  | skipBaseKernel
  | json
  | help
  deriving DecidableEq, Repr

namespace Scan

def readAddresses? (words : List Text) : Option (List Address) :=
  words.mapM fun word => (Address.parse word).toOption

def setSource (scan : Scan) (path : Text) : Except UsageError Scan :=
  if scan.source.isSome then .error .repeatedArgument
  else if path.isEmpty then .error .missingValue
  else .ok { scan with source := some path, pending := .nothing }

def settle (scan : Scan) : Except UsageError Scan :=
  match scan.pending with
  | .nothing => .ok scan
  | .sourceAwaited => .error .missingValue
  | .source path => scan.setSource path
  | .addresses words =>
      match readAddresses? words with
      | some addresses =>
          .ok { scan with addresses := scan.addresses ++ addresses, pending := .nothing }
      | none => .error .unreadableValue

def setFlag (scan : Scan) : Flag → Except UsageError Scan
  | .quiet => if scan.quiet then .error .repeatedArgument else .ok { scan with quiet := true }
  | .skipBaseKernel =>
      if scan.skipBaseKernel then .error .repeatedArgument
      else .ok { scan with skipBaseKernel := true }
  | .json => if scan.json then .error .repeatedArgument else .ok { scan with json := true }
  | .help => .error .helpAsked

def flag (scan : Scan) (flag : Flag) : Except UsageError Scan :=
  match scan.settle with
  | .error usage => .error usage
  | .ok settled => settled.setFlag flag

def flagNamed? (scan : Scan) (name : Text) : Option Flag :=
  if name = "quiet".toList then some .quiet
  else if name = "skip-base-kernel".toList then some .skipBaseKernel
  else if name = helpWord then some .help
  else if name = "json".toList ∧ scan.verb = some .dump then some .json
  else none

def attached (word : Text) : Text × Option Text :=
  match Text.cut? '=' word with
  | some (name, value) => (name, some value)
  | none => (word, none)

def long (scan : Scan) (word : Text) : Except UsageError Scan :=
  let option := attached word
  if option.1 = "source".toList then
    match scan.settle with
    | .error usage => .error usage
    | .ok settled =>
        match option.2 with
        | some path => settled.setSource path
        | none => .ok { settled with pending := .sourceAwaited }
  else
    match scan.flagNamed? option.1, option.2 with
    | none, _ => .error .unknownArgument
    | some _, some _ => .error .unexpectedValue
    | some flag, none => scan.flag flag

def short (scan : Scan) : List Char → Except UsageError Scan
  | [] => .ok scan
  | letter :: rest =>
      let known :=
        if letter = 'q' then some Flag.quiet else if letter = 'h' then some .help else none
      match known with
      | none => .error .unknownArgument
      | some flag =>
          match scan.flag flag with
          | .error usage => .error usage
          | .ok next => next.short rest

def positional (scan : Scan) (word : Text) : Except UsageError Scan :=
  -- A word that is no option and no value of one. Only a lookup takes such words.
  match scan.verb with
  | some .lookup =>
      match scan.pending with
      | .addresses words => .ok { scan with pending := .addresses (words ++ [word]) }
      | _ =>
          match scan.settle with
          | .error usage => .error usage
          | .ok settled => .ok { settled with pending := .addresses [word] }
  | some _ => .error .unknownArgument
  | none =>
      if scan.trailing && ((Verb.named? word).isSome || word == helpWord) then
        .error .unknownArgument
      else .error .unknownSubcommand

def word (scan : Scan) (word : Text) : Except UsageError Scan :=
  if scan.trailing then scan.positional word
  else
    match word with
    | ['-', '-'] => .ok { scan with trailing := true }
    | '-' :: '-' :: option => scan.long option
    | '-' :: letter :: letters => scan.short (letter :: letters)
    | _ =>
        if scan.pending = .sourceAwaited then .ok { scan with pending := .source word }
        else scan.positional word

def subcommand (scan : Scan) : List Text → Except UsageError Scan
  | [] =>
      match scan.settle with
      | .error usage => .error usage
      | .ok settled =>
          if settled.verb = some .lookup ∧ settled.addresses = [] then .error .missingAddress
          else .ok settled
  | first :: rest =>
      match scan.word first with
      | .error usage => .error usage
      | .ok next => next.subcommand rest

def help : List Text → UsageError
  -- The answer to `help` and the words behind it, which name a subcommand or nothing.
  | [] => .helpAsked
  | [name] =>
      if (Verb.named? name).isSome ∨ name = helpWord then .helpAsked else .unknownSubcommand
  | _ => .unknownSubcommand

def command (scan : Scan) : Verb → Command
  | .dump => .dump scan.json
  | .lookup => .lookup scan.addresses
  | .check => .check

def merge (outer inner : Scan) (verb : Verb) : Arguments :=
  -- A subcommand's source goes before the one given at the top; a flag counts at either level.
  { source := (inner.source.or outer.source).getD defaultSource
    quiet := outer.quiet || inner.quiet
    skipBaseKernel := outer.skipBaseKernel || inner.skipBaseKernel
    command := inner.command verb }

/-- The line has ended without a subcommand. -/
def unasked (scan : Scan) : UsageError :=
  match scan.settle with
  | .error usage => usage
  | .ok settled =>
      if settled.source.isSome || settled.quiet || settled.skipBaseKernel then .missingSubcommand
      else .nothingAsked

def awaitsVerb (scan : Scan) : Bool :=
  !scan.trailing && scan.pending != .sourceAwaited

def top (scan : Scan) : List Text → Except UsageError Arguments
  | [] => .error scan.unasked
  | first :: rest =>
      if scan.awaitsVerb && first == helpWord then .error (help rest)
      else
        match if scan.awaitsVerb then Verb.named? first else none with
        | some verb =>
            -- The subcommand is read to its end before what is pending here is examined.
            match subcommand { verb := some verb } rest with
            | .error usage => .error usage
            | .ok inner =>
                match scan.settle with
                | .error usage => .error usage
                | .ok outer => .ok (merge outer inner verb)
        | none =>
            match scan.word first with
            | .error usage => .error usage
            | .ok next => next.top rest

end Scan

def Arguments.parse (words : List Text) : Except UsageError Arguments :=
  Scan.top { verb := none } words

end Symbolizer
