import PortableSql.Value.Basic

/-!
# Statistics

How many statements were run and how long they took, with the latest commands. Every command is
also measured by two instruments, a counter of statements and a histogram of durations.
-/

namespace PortableSql

/-- The figures of one command. -/
structure QueryMetrics where
  command : String
  dialect : String
  /-- The connection that the command ran on. -/
  route : String
  statements : Nat
  /-- The seconds that were spent; none where no clock is read. -/
  duration : Float := 0.0
  success : Bool := true

/-- What a measurement says beside its amount. -/
def QueryMetrics.attributes (metrics : QueryMetrics) : List (String × Value) :=
  [("command", .text metrics.command), ("dialect", .text metrics.dialect),
   ("route", .text metrics.route), ("success", .bool metrics.success)]

/-- Totals of a session. -/
structure Statistics where
  count : Nat := 0
  elapsed : Float := 0.0
  /-- The latest commands, the newest last. -/
  history : List QueryMetrics := []
  longestHistory : Nat := 100

namespace Statistics

/-- Adds the figures of one command; the oldest command is forgotten when there are too many. -/
def record (statistics : Statistics) (metrics : QueryMetrics) : Statistics :=
  let history := statistics.history ++ [metrics]
  { statistics with
    count := statistics.count + metrics.statements
    elapsed := statistics.elapsed + metrics.duration
    history := if statistics.longestHistory < history.length then history.tail else history }

/-- Every statement is counted. -/
@[simp] theorem count_record (statistics : Statistics) (metrics : QueryMetrics) :
    (statistics.record metrics).count = statistics.count + metrics.statements := rfl

/-- Starts anew. -/
def reset (statistics : Statistics) : Statistics :=
  { longestHistory := statistics.longestHistory }

end Statistics

/-- Something that measures. -/
structure Instrument where
  name : String
  description : String
  unit : String

namespace Instrument

/-- The meter that the instruments belong to. -/
def meter : String := "sqlcommand"

/-- Counts statements. -/
def queries : Instrument := ⟨"sqlcommand.queries", "Statements executed", "statements"⟩

/-- Collects durations. -/
def durations : Instrument :=
  ⟨"sqlcommand.query.duration", "Time spent executing a command plan", "s"⟩

end Instrument

/-- One measurement. -/
inductive Measurement where
  | added (instrument : Instrument) (amount : Nat) (attributes : List (String × Value))
  | recorded (instrument : Instrument) (amount : Float) (attributes : List (String × Value))

/-- The measurements of one command. -/
def QueryMetrics.measurements (metrics : QueryMetrics) : List Measurement :=
  [.added .queries metrics.statements metrics.attributes,
   .recorded .durations metrics.duration metrics.attributes]

end PortableSql
