import CiPipeline.CommandLine.Guide
import CiPipeline.Config
import CiPipeline.Definition.Load
import CiPipeline.Dump.Outline
import CiPipeline.Export.Travis
import CiPipeline.Log
import CiPipeline.Machine.Launch

/-!
# Basic — the command line

A command line reads its settings, then runs, exports or shows the pipeline of a definition file.

* `Surroundings`: what the command line takes from its surroundings besides its arguments;
* `Outcome`: what it leaves behind;
* `CommandLine.runIn`: one call of the program, in an environment for the commands of pipelines;
* `CommandLine.run`: one call of the program on the machine.
-/

namespace CiPipeline
namespace CommandLine

structure Surroundings where
  /-- A filter of the log that replaces the level of the settings. -/
  logFilter : Option String
  /-- Asks for debug logging unless it is empty or zero. -/
  debug : Option String
  runId : Nat
  /-- The identifiers that are drawn for commands. -/
  ids : IdSupply

structure Outcome where
  code : Nat
  /-- What is reported when the program fails. -/
  error : Option String
  /-- The levels of what was logged. -/
  levels : List LogLevel
  world : World

/-! ## Failures -/

/-- A failure after what was being done. -/
def explained (doing reason : String) : String := doing ++ ": " ++ reason

/-- What a command did: its exit code or the reason for its failure, its log and the world. -/
structure Step where
  result : Except String Nat
  events : List LogEvent
  world : World

namespace Step

def success (w : World) : Step := ⟨.ok 0, [], w⟩

def failure (reason : String) (w : World) : Step := ⟨.error reason, [], w⟩

def after (step : Step) (events : List LogEvent) : Step :=
  { step with events := events ++ step.events }

end Step

/-! ## Files -/

def writeTo (w : World) (path : Path) (text : String) : Except IoProblem World :=
  (w.files.writeFile w.directory path text.toUTF8 false).map fun files => { w with files := files }

/-- Writes a text to a file in a directory that exists. -/
def save (doing : String) (w : World) (path : Path) (text : String) : Step :=
  match writeTo w path text with
  | .ok w => .success w
  | .error problem => .failure (explained (doing ++ path.text) problem.message) w

/-- Writes an exported text; the directory of the file is created when it is missing. -/
def saveExport (w : World) (path : Path) (text : String) : Step :=
  let doing := "Failed to write export to: "
  match path.parent? with
  | none => save doing w path text
  | some parent =>
    if parent.text.isEmpty then save doing w path text
    else
      match w.files.createDirectories w.directory parent with
      | .ok files => save doing { w with files := files } path text
      | .error problem =>
        .failure (explained ("Failed to create directory: " ++ parent.text) problem.message) w

/-- Goes on with the pipeline of a file. -/
def withPipeline (s : Surroundings) (w : World) (file : Path) (next : Pipeline → Step) : Step :=
  let events :=
    match Definition.fileAt w.files w.directory [] file with
    | .ok _ => [LogEvent.readDefinition]
    | .error _ => []
  match Pipeline.ofFile w.files w.directory s.runId s.ids file with
  | .ok p => (next p).after events
  | .error e =>
    (Step.failure (explained ("Failed to load pipeline: " ++ file.text) e.message) w).after events

/-! ## Commands -/

/-- The pipeline that is run: the stages and the flag of the file, in the given directory. -/
def prepared (baseDir : Path) (runId : Nat) (loaded : Pipeline) : Pipeline :=
  ((Pipeline.ofDir baseDir runId).withAllowFailure loaded.allowFailure).append loaded

/-- Runs the pipeline of a file; the environment carries out what its commands ask for. -/
def runFileIn (env : Environment World) (s : Surroundings) (w : World) (file baseDir : Path) :
    Step :=
  withPipeline s w file fun loaded =>
    let (p, w) := (prepared baseDir s.runId loaded).execute env w
    ⟨.ok (if Runnable.status p then 0 else 1), .loadedPipeline :: p.runEvents, w⟩

def runFile (s : Surroundings) (w : World) (file baseDir : Path) : Step :=
  runFileIn World.environment s w file baseDir

def exportFile (s : Surroundings) (w : World) (file : Path) (provider : String)
    (output : Option Path) : Step :=
  withPipeline s w file fun p =>
    match p.exportFor provider with
    | .error e => .failure (explained ("Failed to export pipeline for " ++ provider) e.message) w
    | .ok text =>
      let step :=
        match output with
        | some path => saveExport w path text
        | none => .success (w.write text)
      step.after [.exporting]

/-- A text as whole lines. -/
def lines (text : String) : String := if text.endsWith "\n" then text else text ++ "\n"

def showFile (s : Surroundings) (w : World) (file : Path) (format : DumpFormat) : Step :=
  withPipeline s w file fun p => .success (w.write (lines (p.render format)))

def writeCompletions (w : World) (shell : Shell) (output : Option Path) : Step :=
  match output with
  | some path => save "Failed to write completions to: " w path shell.completions
  | none => .success (w.writeLine shell.completions)

/-- The name of the provider that is asked for, or else of the one in the settings. -/
def providerName (c : Config) : Option Provider → String
  | some provider => provider.id
  | none => c.defaultProvider

def performIn (env : Environment World) (s : Surroundings) (c : Config) (w : World) :
    Subcommand → Step
  | .run file baseDir =>
    runFileIn env s w (file.getD c.definition) ((baseDir.or c.baseDir).getD w.directory.path)
  | .export file provider output =>
    exportFile s w (file.getD c.definition) (providerName c provider) output
  | .show file format => showFile s w (file.getD c.definition) format
  | .completions shell output => writeCompletions w shell output

/-! ## The program -/

def settings (w : World) (config : Option Path) : Except ConfigError Config :=
  match config with
  | some path => Config.load w.files w.directory path
  | none => Config.discover w.files w.directory w.directory.path

def asksForDebug (s : Surroundings) : Bool := s.debug.any fun value => value ≠ "" ∧ value ≠ "0"

/-- The log filter of the surroundings, or the level that is asked for. -/
def filterOf (s : Surroundings) (verbose : Bool) (c : Config) : LogFilter :=
  let level := LogFilter.ofWords (if verbose || asksForDebug s then "debug" else c.logLevel)
  match s.logFilter with
  | some text => (LogFilter.ofText? text).getD level
  | none => level

def Step.outcome (step : Step) (filter : LogFilter) : Outcome :=
  let levels := filter.shownLevels step.events
  match step.result with
  | .ok code => ⟨code, none, levels, step.world⟩
  | .error reason => ⟨1, some reason, levels, step.world⟩

/-- Help and versions are printed; a misuse is not a failure of the program. -/
def stopped (w : World) : Stop → Outcome
  | .help => ⟨0, none, [], w.write helpText⟩
  | .version => ⟨0, none, [], w.write versionText⟩
  | .misuse => ⟨2, none, [], w⟩

def runIn (env : Environment World) (s : Surroundings) (args : List String) (w : World) :
    Outcome :=
  match Invocation.ofArgs args with
  | .error stop => stopped w stop
  | .ok invocation =>
    match settings w invocation.config with
    | .error e => ⟨1, some (explained "Failed to load configuration" e.message), [], w⟩
    | .ok c =>
      (performIn env s c w invocation.subcommand).outcome (filterOf s invocation.verbose c)

def run (s : Surroundings) (args : List String) (w : World) : Outcome :=
  runIn World.environment s args w

end CommandLine
end CiPipeline
