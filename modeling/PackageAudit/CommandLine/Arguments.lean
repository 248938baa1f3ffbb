import PackageAudit.Report.Format
import PackageAudit.Text.Search

/-!
# Arguments

The arguments name a command with its options, or ask for help. The value of an option is taken when it is
read and checked when the next argument is dealt with (`Reading.settle`), so an argument that is unknown is
noticed before a bad value in front of it.
-/

namespace PackageAudit.CommandLine

/-- The arguments of a check. -/
structure CheckArguments where
  packageDir : String := "."
  rules : Option String := none
  report : Option String := none
  format : Option ReportFormat := none
  keywords : Option String := none
  noReport : Bool := false
  verbose : Bool := false
  deriving DecidableEq, Repr

/-- What the arguments ask for. -/
inductive Command where
  | check (arguments : CheckArguments)
  | init
  deriving DecidableEq, Repr

/-- Why there is no command to be run: help was asked for, or the arguments are wrong. -/
inductive Usage where
  | displayHelp
  | displayVersion
  | unknownArgument
  | invalidValue
  | invalidSubcommand
  | argumentConflict
  | tooManyValues
  deriving DecidableEq, Repr

namespace Usage

/-- The word for a case. -/
def token : Usage → String
  | .displayHelp => "DisplayHelp"
  | .displayVersion => "DisplayVersion"
  | .unknownArgument => "UnknownArgument"
  | .invalidValue => "InvalidValue"
  | .invalidSubcommand => "InvalidSubcommand"
  | .argumentConflict => "ArgumentConflict"
  | .tooManyValues => "TooManyValues"

def exitCode : Usage → Nat
  | .displayHelp | .displayVersion => 0
  | _ => 2

end Usage

/-- What takes a value in a check. -/
inductive Slot where
  | packageDir
  | rules
  | report
  | format
  | keywords
  deriving DecidableEq, Repr

/-- What is said by being there. -/
inductive Switch where
  | noReport
  | verbose
  | help
  deriving DecidableEq, Repr

/-- An argument by its name: one that takes a value or one that does not. -/
inductive Named where
  | valued (slot : Slot)
  | plain (switch : Switch)
  deriving DecidableEq, Repr

/-- The option of a check with a long name. -/
def longOption? : String → Option Named
  | "rules" => some (.valued .rules)
  | "report" => some (.valued .report)
  | "format" => some (.valued .format)
  | "keywords" => some (.valued .keywords)
  | "no-report" => some (.plain .noReport)
  | "verbose" => some (.plain .verbose)
  | "help" => some (.plain .help)
  | _ => none

/-- The option of a check with a short name. -/
def shortSwitch? : Char → Option Switch
  | 'v' => some .verbose
  | 'h' => some .help
  | _ => none

/-- The arguments of a check as far as they were read. -/
structure Reading where
  packageDir : Option String := none
  rules : Option String := none
  report : Option String := none
  format : Option ReportFormat := none
  keywords : Option String := none
  noReport : Bool := false
  verbose : Bool := false
  /-- The slot whose value is not checked yet, with the value if it was read. -/
  pending : Option (Slot × Option String) := none

namespace Reading

/-- A text in a slot that has none yet. An empty text is no path. -/
def fill (old : Option String) (value : String) : Except Usage (Option String) :=
  if old.isSome then .error .argumentConflict
  else if value = "" then .error .invalidValue
  else .ok (some value)

/-- Puts a value into its slot. -/
def accept (r : Reading) (slot : Slot) (value : String) : Except Usage Reading :=
  match slot with
  | .packageDir => return { r with packageDir := ← fill r.packageDir value }
  | .rules => return { r with rules := ← fill r.rules value }
  | .report => return { r with report := ← fill r.report value }
  | .keywords => return { r with keywords := ← fill r.keywords value }
  | .format =>
    if r.format.isSome then .error .argumentConflict
    else match ReportFormat.ofToken? value with
      | some format => .ok { r with format := some format }
      | none => .error .invalidValue

/-- Deals with the value that is not checked yet. -/
def settle (r : Reading) : Except Usage Reading :=
  match r.pending with
  | none => .ok r
  | some (_, none) => .error .invalidValue
  | some (slot, some value) => { r with pending := none }.accept slot value

/-- Deals with a switch. -/
def switch (r : Reading) (s : Switch) : Except Usage Reading := do
  let r ← r.settle
  match s with
  | .help => .error .displayHelp
  | .noReport => if r.noReport then .error .argumentConflict else .ok { r with noReport := true }
  | .verbose => if r.verbose then .error .argumentConflict else .ok { r with verbose := true }

/-- Deals with short switches that stand together. -/
def switches (r : Reading) : List Char → Except Usage Reading
  | [] => .ok r
  | c :: rest =>
    match shortSwitch? c with
    | some s => do (← r.switch s).switches rest
    | none => .error .unknownArgument

/-- Deals with an argument that begins with two hyphens, given what follows them. -/
def long (r : Reading) (text : List Char) : Except Usage Reading :=
  let (name, value) := match Text.cutFirst ['='] text with
    | some (name, value) => (name, some (String.ofList value))
    | none => (text, none)
  match longOption? (String.ofList name), value with
  | none, _ => .error .unknownArgument
  | some (.plain _), some _ => .error .tooManyValues
  | some (.plain s), none => r.switch s
  | some (.valued slot), some value => do (← r.settle).accept slot value
  | some (.valued slot), none => do
    let r ← r.settle
    .ok { r with pending := some (slot, none) }

/-- Deals with an argument that is no option: the package directory, once. -/
def positional (r : Reading) (value : String) : Except Usage Reading :=
  let isTaken := r.packageDir.isSome || r.pending.any (·.1 == .packageDir)
  if isTaken then .error .unknownArgument
  else do
    let r ← r.settle
    .ok { r with pending := some (.packageDir, some value) }

/-- Deals with one argument in front of which no double hyphen stands. -/
def argument (r : Reading) (value : String) : Except Usage Reading :=
  match value.toList with
  | '-' :: '-' :: text => r.long text
  | '-' :: c :: text => r.switches (c :: text)
  | _ =>
    match r.pending with
    | some (slot, none) => .ok { r with pending := some (slot, some value) }
    | _ => r.positional value

/-- Deals with the arguments of a check; `onlyValues` says whether a double hyphen was read. -/
def arguments (r : Reading) (onlyValues : Bool) : List String → Except Usage Reading
  | [] => r.settle
  | value :: rest =>
    if onlyValues then do (← r.positional value).arguments true rest
    else if value = "--" then r.arguments true rest
    else do (← r.argument value).arguments false rest

/-- The arguments of a check that was read; the rules named by the environment count where no others are
named. -/
def toArguments (r : Reading) (rulesEnv : Option String) : Except Usage CheckArguments := do
  let rules ← match r.rules, rulesEnv with
    | none, some "" => .error Usage.invalidValue
    | none, some path => .ok (some path)
    | rules, _ => .ok rules
  .ok { packageDir := r.packageDir.getD ".", rules, report := r.report, format := r.format
        keywords := r.keywords, noReport := r.noReport, verbose := r.verbose }

end Reading

/-- The arguments after `init`, which takes none. -/
def readInit (onlyValues : Bool) : List String → Except Usage Command
  | [] => .ok .init
  | value :: rest =>
    if onlyValues then .error .unknownArgument
    else if value = "--" then readInit true rest
    else match value.toList with
      | '-' :: 'h' :: _ => .error .displayHelp
      | '-' :: '-' :: text =>
        if text = "help".toList then .error .displayHelp
        else if "help=".toList.isPrefixOf text then .error .tooManyValues
        else .error .unknownArgument
      | _ => .error .unknownArgument

def commandNames : List String := ["check", "init", "help"]

/-- The arguments after `help`, which may name a command. -/
def readHelp : List String → Usage
  | [] => .displayHelp
  | [name] => if commandNames.contains name then .displayHelp else .invalidSubcommand
  | _ => .invalidSubcommand

/-- An argument in place of a command that is none. -/
def noCommand (value : String) : Usage :=
  match value.toList with
  | '-' :: 'h' :: _ => .displayHelp
  | '-' :: 'V' :: _ => .displayVersion
  | '-' :: '-' :: text =>
    if text = "help".toList then .displayHelp
    else if text = "version".toList then .displayVersion
    else if "help=".toList.isPrefixOf text || "version=".toList.isPrefixOf text then .tooManyValues
    else .unknownArgument
  | '-' :: _ :: _ => .unknownArgument
  | _ => .invalidSubcommand

/-- Reads all arguments; without any there is no command. -/
def readArguments (rulesEnv : Option String) : List String → Except Usage (Option Command)
  | [] => .ok none
  | "check" :: rest => do
    let r ← ({} : Reading).arguments false rest
    .ok (some (.check (← r.toArguments rulesEnv)))
  | "init" :: rest => some <$> readInit false rest
  | "help" :: rest => .error (readHelp rest)
  | ["--"] => .ok none
  | "--" :: value :: _ =>
    .error (if commandNames.contains value then .unknownArgument else .invalidSubcommand)
  | value :: _ => .error (noCommand value)

end PackageAudit.CommandLine
