import CiPipeline.Pipeline.Basic

/-!
# Log — what a run reports about itself

Events have a level and a source.  A filter is a list of directives, each of which admits the events
of some sources up to a level; the directive that names the source most exactly decides.

* `LogLevel`, `LogEvent`: what is reported;
* `LogFilter`: what is shown; `LogFilter.ofText?` and `LogFilter.ofWords` read it;
* `Pipeline.runEvents`: the events of an execution, seen from the tree it leaves behind.
-/

namespace CiPipeline

inductive LogLevel where
  | error
  | warn
  | info
  | debug
  | trace
deriving DecidableEq, Repr, Inhabited

namespace LogLevel

def name : LogLevel → String
  | error => "ERROR"
  | warn => "WARN"
  | info => "INFO"
  | debug => "DEBUG"
  | trace => "TRACE"

/-- How many levels are at least as urgent. -/
def rank : LogLevel → Nat
  | error => 1
  | warn => 2
  | info => 3
  | debug => 4
  | trace => 5

def all : List LogLevel := [error, warn, info, debug, trace]

end LogLevel

structure LogEvent where
  level : LogLevel
  source : String
deriving DecidableEq, Repr

/-! ## Filters -/

structure LogDirective where
  /-- The beginning of the names of the sources; all sources when absent. -/
  source : Option String
  /-- How many levels are admitted. -/
  rank : Nat
  /-- Whether it speaks of any event at all. -/
  active : Bool
deriving DecidableEq, Repr

structure LogFilter where
  directives : List LogDirective
deriving DecidableEq, Repr

namespace LogDirective

/-- A level by its number or its name; zero and `off` admit nothing. -/
def rank? (word : String) : Option Nat :=
  let digits := if word.startsWith "+" then (word.drop 1).toString else word
  if !digits.isEmpty && digits.toList.all Char.isDigit then
    digits.toNat?.filter (· ≤ LogLevel.trace.rank)
  else
    let word := word.toLower
    if word = "off" then some 0
    else (LogLevel.all.find? fun level => level.name.toLower = word).map LogLevel.rank

/-- The level after an equals sign; nothing stands for all levels. -/
def rankAfter? (word : String) : Option Nat :=
  if word.isEmpty then some LogLevel.trace.rank else rank? word

def mayBegin (c : Char) : Bool :=
  c.isAlphanum || c == '-' || c == ':' || c == '_' || c == '[' || 0x80 ≤ c.toNat

/-- What follows the closing bracket of a span. -/
def afterSpan (rest : List Char) : Option LogDirective :=
  match rest with
  | [] => some ⟨none, LogLevel.trace.rank, false⟩
  | '=' :: level => (rankAfter? (String.ofList level)).map fun rank => ⟨none, rank, false⟩
  | _ => none

/-- A directive: a level, a source, or a source with a level.  No event is inside a span, so a
directive that names one speaks of nothing. -/
def ofText? (s : String) : Option LogDirective :=
  let cs := s.toList
  if !cs.head?.any mayBegin then none
  else if cs.contains '[' then
    match (cs.dropWhile (· != ']')) with
    | [] => none
    | _ :: rest => afterSpan rest
  else
    let front := String.ofList (cs.takeWhile (· != '='))
    match cs.dropWhile (· != '=') with
    | [] =>
      match rank? front with
      | some rank => some ⟨none, rank, true⟩
      | none => some ⟨some front, LogLevel.trace.rank, true⟩
    | _ :: level =>
      (rankAfter? (String.ofList level)).map fun rank => ⟨some front, rank, true⟩

def covers (d : LogDirective) (e : LogEvent) : Bool :=
  d.active && (d.source.all fun source => e.source.startsWith source)

/-- How exactly a directive names its sources. -/
def exactness (d : LogDirective) : Nat :=
  match d.source with
  | none => 0
  | some source => source.utf8ByteSize + 1

end LogDirective

namespace LogFilter

/-- A filter without directives shows errors. -/
def ofDirectives : List LogDirective → LogFilter
  | [] => ⟨[⟨none, LogLevel.error.rank, true⟩]⟩
  | directives => ⟨directives⟩

/-- The filter that a text gives, all parts of which must be directives. -/
def ofText? (s : String) : Option LogFilter :=
  if s.isEmpty then some (ofDirectives [])
  else ((s.splitOn ",").mapM LogDirective.ofText?).map ofDirectives

/-- The filter that a text gives when parts that are no directives are passed over. -/
def ofWords (s : String) : LogFilter := ofDirectives ((s.splitOn ",").filterMap LogDirective.ofText?)

/-- The most exact directive for an event, the last of those that are equally exact. -/
def decisive (f : LogFilter) (e : LogEvent) : Option LogDirective :=
  f.directives.foldl (fun best d =>
    if d.covers e && best.all fun best => best.exactness ≤ d.exactness then some d else best) none

def shows (f : LogFilter) (e : LogEvent) : Bool :=
  match f.decisive e with
  | some d => e.level.rank ≤ d.rank
  | none => false

/-- The levels of the events that are shown, sorted by name. -/
def shownLevels (f : LogFilter) (events : List LogEvent) : List LogLevel :=
  [LogLevel.debug, .error, .info, .trace, .warn].filter fun level =>
    events.any fun e => e.level == level && f.shows e

end LogFilter

/-! ## Events -/

namespace LogEvent

def readDefinition : LogEvent := ⟨.debug, "pipelyne::pipeline::definition"⟩

def loadedPipeline : LogEvent := ⟨.debug, "pipelyne::pipeline::pipeline_def"⟩

def runningPipeline : LogEvent := ⟨.info, "pipelyne::pipeline::pipeline_def"⟩

def runningStage : LogEvent := ⟨.info, "pipelyne::pipeline::stage"⟩

def runningJob : LogEvent := ⟨.debug, "pipelyne::pipeline::job"⟩

def runningCommand : LogEvent := ⟨.debug, "pipelyne::pipeline::command"⟩

def spawning : LogEvent := ⟨.debug, "pipelyne::executor::process"⟩

def notStarted : LogEvent := ⟨.error, "pipelyne::pipeline::command"⟩

def skipping : LogEvent := ⟨.warn, "pipelyne::executor::sequential"⟩

def exporting : LogEvent := ⟨.debug, "pipelyne::infrastructure::travis"⟩

def verdict (status : Bool) : LogEvent :=
  ⟨if status then .info else .error, "pipelyne::cli::run"⟩

end LogEvent

/-- The warning that children were skipped. -/
def haltEvents {α : Type} [Runnable α] (children : List α) : List LogEvent :=
  if children.any fun child => (Runnable.state child).isFailed && !Runnable.status child then
    [.skipping]
  else []

namespace Command

def runEvents (c : Command) : List LogEvent :=
  if c.state.isUnstarted then []
  else
    match c.action, c.result.error with
    | .run .., some (.spawn ..) => [.runningCommand, .spawning, .notStarted]
    | .run .., _ => [.runningCommand, .spawning]
    | _, _ => [.runningCommand]

end Command

namespace Job

def runEvents (j : Job) : List LogEvent :=
  if j.state.isUnstarted then []
  else .runningJob :: j.commands.flatMap Command.runEvents ++ haltEvents j.commands

end Job

namespace Stage

def runEvents (stage : Stage) : List LogEvent :=
  if stage.state.isUnstarted then []
  else .runningStage :: stage.jobs.flatMap Job.runEvents ++ haltEvents stage.jobs

end Stage

namespace Pipeline

def runEvents (p : Pipeline) : List LogEvent :=
  .runningPipeline :: p.stages.flatMap Stage.runEvents ++ haltEvents p.stages
    ++ [.verdict (Runnable.status p)]

end Pipeline
end CiPipeline
