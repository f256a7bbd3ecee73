/-
The program.

A `Job` reads files, and its `Report` says what is printed: documents and summaries on the standard
output, remarks on the error output, and a `Complaint` if the job could not be done. Files are looked at
in a fixed order, the configuration first, so of several that are at fault one is named. Everything a job
depends on is in its `Surroundings`.
-/
import CalBench.CommandLine.Arguments
import CalBench.Config.Installation
import CalBench.Json.Reader
import CalBench.Json.Writer
import CalBench.Procedure.Runner

namespace CalBench

/-- what a job depends on -/
structure Surroundings (ω : Type) where
  /-- the text of the file at a path that has no needless steps -/
  file? : String → Option String
  environment : List (String × String)
  freshId : String
  reach : Endpoint → ω

/-- what a file is to contain -/
inductive FileRole
  | library
  | sequence
  | configuration
  | flow
deriving DecidableEq, Repr

def FileRole.name : FileRole → String
  | .library => "library"
  | .sequence => "sequence"
  | .configuration => "configuration"
  | .flow => "flow"

/-- why a job could not be done -/
inductive Complaint
  | unreadable (role : FileRole) (path : String)
  | settings (path : String) (e : ConfigError)
  | validation (errors : List ValidationError)
  | library (issues : List LibraryIssue)
  | interfaces (e : LinkError)
  /-- the bench lacks something that the sequence needs -/
  | bench (f : Failure)
  | execution (f : Failure)
  | action (action sectionName : String) (f : Failure)

namespace Complaint

/-- the complaint in short -/
def message : Complaint → String
  | .unreadable role path => s!"Failed to load {role.name} {path}"
  | .settings path _ => s!"Failed to load configuration {path}"
  | .validation errors => Number.natText errors.length ++ " validation error(s)"
  | .library issues => Number.natText issues.length ++ " library issue(s)"
  | .interfaces _ => "Failed to build communication interfaces"
  | .bench _ => "Sequence cannot run on this bench"
  | .execution _ => "Sequence execution failed"
  | .action name sectionName _ => s!"Action '{name}' in section '{sectionName}' failed"

/-- the single problems that make up the complaint -/
def problems : Complaint → List String
  | .validation errors => errors.map ValidationError.message
  | .library issues => issues.map LibraryIssue.message
  | _ => []

/-- what is behind the complaint -/
def cause? : Complaint → Option String
  | .settings _ e => some e.message
  | .interfaces e => some e.message
  | .bench f => some f.message
  | .execution f => some f.message
  | .action _ _ f => some f.message
  | _ => none

def lines (c : Complaint) : List String :=
  c.problems ++ ("Error: " ++ c.message) :: match c.cause? with
    | some cause => ["", "Caused by:", "    " ++ cause]
    | none => []

end Complaint

/-- what a job has to say -/
structure Report where
  output : List String := []
  remarks : List String := []
  complaint : Option Complaint := none

/-! ## Files -/

namespace Surroundings

variable {ω : Type}

/-- the text of the file that a path leads to -/
def text? (s : Surroundings ω) (path : String) : Option String := s.file? (plainPath path)

/-- the document in a file -/
def document {α : Type} [Codec α] [Shaped α] (s : Surroundings ω) (role : FileRole) (path : String) :
    Except Complaint α :=
  match (s.text? path).bind (Json.read? α) with
  | some a => .ok a
  | none => .error (.unreadable role path)

/-- the catalog of a library, empty without one -/
def catalog (s : Surroundings ω) : Option String → Except Complaint Catalog
  | some path => (s.document .library path).map Catalog.ofLibrary
  | none => .ok default

def sequence (s : Surroundings ω) (path : String) : Except Complaint SequenceDocument := s.document .sequence path

/-- the configuration in a file, with the environment over it; there need not be a file -/
def config (s : Surroundings ω) (path : String) : Except Complaint EngineConfig :=
  (EngineConfig.load (s.text? path) s.environment).mapError (.settings path)

def interfaces [Wire ω] (s : Surroundings ω) (c : EngineConfig) : Except Complaint (Pool (Interface ω)) :=
  (c.pool s.reach).mapError .interfaces

end Surroundings

/-- the plan of a sequence; its fields may be bound to variables of the environment -/
def Surroundings.plan {ω : Type} (s : Surroundings ω) (c : Catalog) (d : SequenceDocument) : Except Complaint Plan :=
  (d.compile c { environment := .ofList s.environment }).mapError .validation

/-! ## Jobs -/

def Driver.summary (d : Driver) : String :=
  let sets := Number.natText (d.instructionSets.length + d.standardSets.length)
  s!"{d.manufacturer} {d.model} ({d.nomenclature}) - " ++ sets ++
    s!" instruction set(s), terminator {d.terminator.name}"

namespace Job

variable {ω : Type} [Wire ω] (s : Surroundings ω)

/-- Compiles a sequence. -/
def reportValidate (sequence : String) (library : Option String) : Except Complaint Report := do
  let catalog ← s.catalog library
  let plan ← s.plan catalog (← s.sequence sequence)
  let steps := Number.natText plan.steps.length
  return { output := [s!"{sequence}: " ++ steps ++ s!" step(s), {plan.totalDelay.message} of delays"] }

/-- Lists drivers and checks instructions. -/
def reportCatalog (library : String) (category : Option String) : Except Complaint Report := do
  let catalog ← s.catalog (some library)
  let drivers := match category with
    | some name => catalog.driversIn name
    | none => catalog.library.drivers
  let issues := catalog.library.issues
  return {
    output := drivers.map Driver.summary
    complaint := if issues.isEmpty then none else some (.library issues) }

/-- Executes a plan and closes all interfaces. -/
def executeAndClose (e : Executor) (plan : Plan) :
    Proc.Fallible (Bench (Interface ω) × Run) Failure (List StepResult) :=
  (e.execute plan).bind fun outcome =>
  (Pool.disableAll.onPart Run.client).bind fun _ => .done outcome

/-- Executes a sequence on the configured interfaces. -/
def reportRun (config sequence : String) (library : Option String) (inBulk : Bool) : Except Complaint Report := do
  let c ← s.config config
  let catalog ← s.catalog library
  let d ← s.sequence sequence
  let plan ← s.plan catalog { d with respondInBulk := d.respondInBulk || inBulk }
  let pool ← s.interfaces c
  (c.executor.bind pool.contains plan).mapError .bench
  let (bench, signal) := ({ pool := pool.enableAll } : Bench (Interface ω)).newSignal
  let ending := (executeAndClose c.executor plan).alone (bench, { id := s.freshId, signal })
  let output := ending.state.1.events.map fun e => e.document.compact
  match ending.result?.getD (.error .cancelled) with
  | .ok steps => return { output, remarks := [Number.natText steps.length ++ " step(s) executed"] }
  | .error f => return { output, complaint := some (.execution f) }

/-- Runs an action of a procedure from end to end. -/
def reportProcedure (config flow sectionName action : String) (library : Option String) :
    Except Complaint Report := do
  let c ← s.config config
  let catalog ← s.catalog library
  let procedure : Procedure ← s.document .flow flow
  let pool ← s.interfaces c
  let runner : Runner := { procedure, executor := c.executor, catalog, environment := .ofList s.environment }
  let request : TriggerRequest := { kind := .start, runId := some s.freshId, sectionName, action }
  let ending := (runner.run s.freshId request).alone (Station.ofProcedure procedure { pool })
  match ending.result?.getD (.error .cancelled) with
  | .ok report => return { output := [report.document.pretty] }
  | .error f => .error (.action action sectionName f)

def report : Job → Report := fun job =>
  let outcome := match job with
    | .validate sequence library => reportValidate s sequence library
    | .catalog library category => reportCatalog s library category
    | .run config sequence library inBulk => reportRun s config sequence library inBulk
    | .procedure config flow sectionName action library =>
      reportProcedure s config flow sectionName action library
  match outcome with
  | .ok report => report
  | .error complaint => { complaint := some complaint }

end Job

/-! ## The whole program -/

/-- everything that is printed, and the exit code -/
structure Printout where
  output : List String := []
  errors : List String := []
  code : Nat := 0
deriving DecidableEq, Repr

def Report.printout (r : Report) : Printout :=
  match r.complaint with
  | none => { output := r.output, errors := r.remarks }
  | some c => { output := r.output, errors := r.remarks ++ c.lines, code := 1 }

def Invocation.printout {ω : Type} [Wire ω] (s : Surroundings ω) : Invocation → Printout
  | .job j => (j.report s).printout
  | .help lines => { output := lines }
  | .misuse m => { errors := m.lines, code := 2 }

/-- the variables in a block of entries `name=value`, each of which ends in a zero byte -/
def variablesOf (block : Bytes) : List (String × String) :=
  ((Text.decodeLossy block).splitOn "\x00").filterMap fun entry => match entry.splitOn "=" with
    | name :: value :: more => some (name, "=".intercalate (value :: more))
    | _ => none

/-- the id of a run made from random bytes: a UUID of version 4 -/
def runIdOf (bytes : List UInt8) : String :=
  let digit (n : Nat) : Char := (Nat.toDigits 16 (n % 16)).headD '0'
  let digits := (bytes.take 16).flatMap fun b => [digit (b.toNat / 16), digit b.toNat]
  let tagged := (digits.set 12 '4').modify 16 fun c => digit (8 + c.toNat % 4)
  let part (start length : Nat) : String := String.ofList ((tagged.drop start).take length)
  "-".intercalate [part 0 8, part 8 4, part 12 4, part 16 4, part 20 12]

end CalBench
