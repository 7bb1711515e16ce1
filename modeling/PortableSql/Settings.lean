import PortableSql.Dialect.Name
import PortableSql.Payload.Field

/-!
# Settings

How a session connects. Each setting is given by name, or else by a variable of the environment
whose name begins with that of this library; neither regards the case of letters. What is neither
given nor set has its usual value, except the address of the primary server, which is required.
The settings of the environment are read once and kept until they are read again.
-/

namespace PortableSql

/-- How a session connects. -/
structure Settings where
  /-- The address of the primary server. -/
  dsn : String
  /-- The address of the server that writes go to. -/
  masterDsn : Option String := none
  /-- The dialect, where the address does not tell it. -/
  dialect : Option String := none
  /-- Rows are sent one by one. -/
  largeResults : Bool := false
  echo : Bool := false
  /-- Connections are tested before they are used. -/
  prePing : Bool := true
  logLevel : String := "INFO"

/-- Variables with their texts. -/
abbrev Variables := List (String × String)

namespace Settings

/-- What the names of variables begin with. -/
def variableStart : String := "sqlcommand_"

/-- The settings by name. -/
def names : List String :=
  ["dsn", "master_dsn", "dialect", "large_results", "echo", "pool_pre_ping", "log_level"]

/-- The given value of a setting: that of its name, or of its name in other letters. -/
def given? (name : String) (entries : Payload.Entries) : Option Value :=
  match Payload.valueOf? name entries with
  | some value => some value
  | none => (entries.find? fun (key, _) => match key with
      | .text spelling => Text.lower spelling = name
      | _ => false).map Prod.snd

/-- The value that the environment has for a setting; of two variables that differ in the case of
letters the later one counts. -/
def ofEnvironment? (name : String) (environment : Variables) : Option Value :=
  ((environment.reverse.find? fun (spelling, _) =>
    Text.lower spelling = variableStart ++ name).map Prod.snd).map .text

/-- The settings that are given or set, under their names. -/
def entries (given : Payload.Entries) (environment : Variables) : Payload.Entries :=
  names.filterMap fun name =>
    ((given? name given).orElse fun _ => ofEnvironment? name environment).map fun value =>
      (.text name, value)

/-- Reads the name of a dialect, without regard to the case of letters. -/
def readDialect (value : Value) : Checked String :=
  (Payload.readText value).andThen fun characters =>
    let name := Text.lower characters
    let known := Family.all.map Family.name
    if known.contains name then .accepted name
    else .refusedValue ("dialect must be one of " ++ Text.listed known)

/-- Reads settings. -/
def read (given : Payload.Entries) (environment : Variables) : Checked Settings :=
  let found := entries given environment
  Settings.mk
    <$> Payload.required found ⟨"dsn", "dsn"⟩ Payload.readText
    <*> Payload.optional found ⟨"master_dsn", "master_dsn"⟩ none
      (Payload.nullable Payload.readText)
    <*> Payload.optional found ⟨"dialect", "dialect"⟩ none (Payload.nullable readDialect)
    <*> Payload.optional found ⟨"large_results", "large_results"⟩ false Payload.readBool
    <*> Payload.optional found ⟨"echo", "echo"⟩ false Payload.readBool
    <*> Payload.optional found ⟨"pool_pre_ping", "pool_pre_ping"⟩ true Payload.readBool
    <*> Payload.optional found ⟨"log_level", "log_level"⟩ "INFO" fun value =>
      (Payload.readText value).map Text.upper

/-- An address as it may be shown: only whether there is one. -/
def masked (address : String) : String := if address.isEmpty then "" else "**********"

/-- The name or address that tells the dialect. -/
def dialectSource (settings : Settings) : String :=
  match settings.dialect with
  | some name => if name.isEmpty then settings.dsn else name
  | none => settings.dsn

/-- The settings of the environment that were read, while an effect uses them. -/
abbrev Keeping (α : Type) := ExceptT Failure (StateM (Option Settings)) α

/-- Reads the settings of the environment and keeps them; those kept before remain when that
fails. -/
def refresh (environment : Variables) : Keeping Settings := do
  match ((read [] environment).toReporting).result with
  | .ok settings => do
    set (some settings)
    pure settings
  | .error failure => throw failure

/-- The settings of the environment, which are read when none are kept. -/
def current (environment : Variables) : Keeping Settings := do
  match ← get with
  | some settings => pure settings
  | none => refresh environment

/-- Forgets the settings of the environment and reads them again. -/
def reload (environment : Variables) : Keeping Settings := do
  set (none : Option Settings)
  refresh environment

/-- The dialect of a name, or else of the settings of the environment. -/
def usualDialect (environment : Variables) (name? : Option String) : Keeping Dialect := do
  let name ← match name? with
    | some name => pure name
    | none => do pure (← current environment).dialectSource
  match (Dialect.named name).result with
  | .ok dialect => pure dialect
  | .error failure => throw failure

end Settings

end PortableSql
