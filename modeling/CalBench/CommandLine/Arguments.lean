/-
The command line.

The first argument is a `Verb`, the others are options of that verb: flags, texts, and paths, which may
not be empty. A value follows its option as the next argument, which then must not look like an option,
or after an equals sign. `Invocation.ofArguments` reads the arguments from left to right; the first thing
that is wrong, or the first request for help, decides. Otherwise they make up a `Job`.
-/
import CalBench.Number.Layout
import CalBench.Table
import CalBench.Text.Case

namespace CalBench

/-- what can be asked of the program -/
inductive Verb
  | validate
  | catalog
  | run
  | procedure
deriving DecidableEq, Repr

/-- what stands after the name of an option -/
inductive OptionForm
  | flag
  | text
  | path
deriving DecidableEq, Repr

structure OptionSpec where
  name : String
  form : OptionForm := .path
  needed : Bool := false
  about : String := ""
deriving DecidableEq, Repr

namespace Verb

def all : List Verb := [validate, catalog, run, procedure]

def name : Verb → String
  | .validate => "validate"
  | .catalog => "catalog"
  | .run => "run"
  | .procedure => "procedure"

def ofName? (s : String) : Option Verb := all.find? fun v => v.name == s

/-- what a verb does -/
def about : Verb → String
  | .validate => "Compile a sequence and report every validation error"
  | .catalog => "List the drivers in a library and check its instructions"
  | .run => "Execute one sequence against the configured interfaces"
  | .procedure => "Start an action of a deployed procedure and wait for it to finish"

def options : Verb → List OptionSpec
  | .validate => [
    { name := "sequence", needed := true, about := "Sequence document (JSON)" },
    { name := "library", about := "Driver library (JSON)" }]
  | .catalog => [
    { name := "library", needed := true },
    { name := "category", form := .text, about := "Only drivers in this category" }]
  | .run => [
    { name := "config", needed := true, about := "Engine configuration (TOML)" },
    { name := "sequence", needed := true },
    { name := "library" },
    { name := "bulk", form := .flag, about := "Emit one batch at the end instead of one line per step" }]
  | .procedure => [
    { name := "config", needed := true },
    { name := "flow", needed := true, about := "Deployed flow (JSON array of nodes)" },
    { name := "section", form := .text, needed := true, about := "Section short name" },
    { name := "action", form := .text, needed := true },
    { name := "library" }]

def option? (v : Verb) (name : String) : Option OptionSpec := v.options.find? fun o => o.name == name

end Verb

/-! ## Help -/

namespace Help

/-- two columns, the second one aligned -/
def columns (rows : List (String × String)) : List String :=
  let width := (rows.map fun r => r.1.length).foldl max 0
  rows.map fun r => "  " ++ r.1 ++ String.ofList (List.replicate (width - r.1.length + 2) ' ') ++ r.2

/-- an option and its value -/
def signature (o : OptionSpec) : String :=
  if o.form = .flag then "--" ++ o.name else "--" ++ o.name ++ " <" ++ Text.upper o.name ++ ">"

/-- the words for asking for help -/
def helpAbout : String := "Print this message or the help of the given subcommand(s)"

/-- the help for the program -/
def overview : List String :=
  ["Instrument command sequencing for calibration procedures", "", "Usage: calseq <COMMAND>", "", "Commands:"] ++
    columns (Verb.all.map (fun v => (v.name, v.about)) ++ [("help", helpAbout)]) ++
    ["", "Options:", "  -h, --help  Print help"]

def verb (v : Verb) : List String :=
  let needed := (v.options.filter OptionSpec.needed).map signature
  [v.about, "", " ".intercalate (["Usage: calseq", v.name, "[OPTIONS]"] ++ needed), "", "Options:"] ++
    columns (v.options.map (fun o => ("    " ++ signature o, o.about)) ++ [("-h, --help", "Print help")])

def help : List String :=
  [helpAbout, "", "Usage: calseq help [COMMAND]...", "", "Arguments:",
   "  [COMMAND]...  Print help for the subcommand(s)"]

end Help

/-! ## Reading -/

/-- what is wrong with the arguments -/
inductive Misuse
  | noVerb
  | unknownVerb (argument : String)
  | unexpected (argument : String)
  | noValue (option : String)
  | repeated (option : String)
  | missing (options : List String)
deriving DecidableEq, Repr

def Misuse.lines : Misuse → List String
  | .noVerb => Help.overview
  | .unknownVerb argument => [s!"error: unrecognized subcommand '{argument}'"]
  | .unexpected argument => [s!"error: unexpected argument '{argument}' found"]
  | .noValue option => [s!"error: a value is required for '--{option}' but none was supplied"]
  | .repeated option => [s!"error: the argument '--{option}' cannot be used multiple times"]
  | .missing options =>
    "error: the following required arguments were not provided:" :: options.map fun o => "  --" ++ o

/-- what a command line asks for -/
inductive Job
  | validate (sequence : String) (library : Option String)
  | catalog (library : String) (category : Option String)
  | run (config sequence : String) (library : Option String) (inBulk : Bool)
  | procedure (config flow sectionName action : String) (library : Option String)
deriving DecidableEq, Repr

/-- the job of a verb with the options given -/
def Verb.job (v : Verb) (given : Table String) : Job :=
  let text (name : String) : String := (given.get? name).getD ""
  let library := given.get? "library"
  match v with
  | .validate => .validate (text "sequence") library
  | .catalog => .catalog (text "library") (given.get? "category")
  | .run => .run (text "config") (text "sequence") library (given.contains "bulk")
  | .procedure => .procedure (text "config") (text "flow") (text "section") (text "action") library

/-- The path without the steps that lead nowhere: those to `.` and those between doubled slashes. The last
step stays, since a path that ends in a slash or in `.` is not one of a file. -/
def plainPath (path : String) : String :=
  match path.splitOn "/" with
  | first :: rest =>
    let start := if first == "." && !rest.isEmpty then [] else [first]
    let inner := rest.dropLast.filter fun step => step != "" && step != "."
    "/".intercalate (start ++ inner ++ rest.getLast?.toList)
  | [] => path

def Job.files (j : Job) : List String :=
  let paths := match j with
    | .validate sequence library => sequence :: library.toList
    | .catalog library _ => [library]
    | .run config sequence library _ => config :: sequence :: library.toList
    | .procedure config flow _ _ library => config :: flow :: library.toList
  paths.map plainPath

/-- what the arguments come to -/
inductive Invocation
  | job (j : Job)
  | help (lines : List String)
  | misuse (m : Misuse)
deriving DecidableEq, Repr

namespace Invocation

def isSwitch (s : String) : Bool := s.toList.head? == some '-' && s != "-"

/-- Takes an option and its value. -/
def take (o : OptionSpec) (value : String) (given : Table String) : Except Misuse (Table String) :=
  if given.contains o.name then .error (.repeated o.name)
  else if o.form = .path && value.isEmpty then .error (.noValue o.name)
  else .ok (given.insert o.name value)

/-- an argument that begins with two dashes: its name, and the value after an equals sign -/
def split (body : List Char) : String × Option String :=
  let name := body.takeWhile fun c => c != '='
  (String.ofList name, match body.drop name.length with
    | [] => none
    | _ :: value => some (String.ofList value))

/-- the job, if no option is missing -/
def finish (v : Verb) (given : Table String) : Invocation :=
  match (v.options.filter fun o => o.needed && !given.contains o.name).map OptionSpec.name with
  | [] => .job (v.job given)
  | missing => .misuse (.missing missing)

/-- Goes on with the options, unless there is something wrong. -/
def proceed (r : Except Misuse (Table String)) (next : Table String → Invocation) : Invocation :=
  match r with
  | .ok given => next given
  | .error m => .misuse m

/-- reads the arguments after the verb -/
def options (v : Verb) (given : Table String) : List String → Invocation
  | [] => finish v given
  | argument :: rest =>
    match argument.toList with
    | ['-', '-'] => match rest with
      | [] => finish v given
      | extra :: _ => .misuse (.unexpected extra)
    | '-' :: '-' :: body => match v.option? (split body).1, (split body).2 with
      | some o, some value =>
        if o.form = .flag then .misuse (.unexpected argument)
        else proceed (take o value given) fun given => options v given rest
      | some o, none =>
        if o.form = .flag then proceed (take o "" given) fun given => options v given rest
        else match rest with
          | [] => .misuse (.noValue o.name)
          | value :: rest =>
            if isSwitch value then .misuse (.noValue o.name)
            else proceed (take o value given) fun given => options v given rest
      | none, _ => if argument == "--help" then .help (Help.verb v) else .misuse (.unexpected argument)
    | '-' :: 'h' :: _ => .help (Help.verb v)
    | _ => .misuse (.unexpected argument)

/-- reads the arguments after a request for help -/
def helpFor : List String → Invocation
  | [] => .help Help.overview
  | name :: rest => match rest, Verb.ofName? name with
    | [], some v => .help (Help.verb v)
    | [], none => if name == "help" then .help Help.help else .misuse (.unknownVerb name)
    | extra :: _, some _ => .misuse (.unknownVerb extra)
    | _ :: _, none => .misuse (.unknownVerb name)

def ofArguments : List String → Invocation
  | [] => .misuse .noVerb
  | first :: rest =>
    if first == "help" then helpFor rest
    else if first == "--help" || "-h".isPrefixOf first then .help Help.overview
    else match Verb.ofName? first with
      | some v => options v .empty rest
      | none => .misuse (.unknownVerb first)

end Invocation

end CalBench
