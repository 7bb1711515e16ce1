import PortableSql.Server.Basic

/-!
# Scripted servers

A scripted server answers from a list: a statement takes the first answer whose text it begins
with, and the answer is used up. A statement for which there is none has no rows.
-/

namespace PortableSql

/-- One answer of a script. -/
structure ScriptedAnswer where
  /-- The beginning of the statements that the answer is for. -/
  start : String := ""
  answer : Except Failure ResultSet

/-- How one engine behaves. -/
structure EngineScript where
  style : MarkerStyle := .question
  answers : List ScriptedAnswer := []
  connectFault? : Option Failure := none
  closeFault? : Option Failure := none

/-- Takes the first answer for a statement. -/
def takeAnswer (sql : String) : List ScriptedAnswer → Except Failure ResultSet × List ScriptedAnswer
  | [] => (.ok {}, [])
  | answer :: rest =>
    if Text.begins answer.start sql then (answer.answer, rest)
    else
      let (found, left) := takeAnswer sql rest
      (found, answer :: left)

/-- The outcome of a call that fails when there is a fault. -/
def unlessFault : Option Failure → Except Failure Unit
  | none => .ok ()
  | some failure => .error failure

/-- Servers that follow scripts, one for each engine; further engines have an empty script. -/
def Server.scripted : Server (List EngineScript) where
  style engine scripts := ((scripts[engine]?).getD {}).style
  connect engine scripts := (unlessFault ((scripts[engine]?).getD {}).connectFault?, scripts)
  execute engine request scripts :=
    let script := (scripts[engine]?).getD {}
    let (answer, answers) := takeAnswer request.sql script.answers
    (answer, scripts.set engine { script with answers })
  close engine scripts := (unlessFault ((scripts[engine]?).getD {}).closeFault?, scripts)

end PortableSql
