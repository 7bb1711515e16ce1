import PortableSql.Log.Directive
import PortableSql.Payload.Field

/-!
# Messages with arguments

A message is a text with directives, each a percent sign with what says how an argument is
written. Arguments are taken in order, or by name when they are one dictionary. The text of a
message may hold lone surrogates, so it is a list of code points.
-/

namespace PortableSql.Log

/-- What a message still has to take. -/
structure Supply where
  /-- The value that has the arguments by name, if they have names. -/
  named? : Option Value := none
  /-- The arguments to be taken next. -/
  next : List Value

/-- The arguments of a message: a tuple has them in order. Any other value is the only argument;
those that have parts may be asked for them by name. -/
def Supply.of : Value → Supply
  | .tuple items => { next := items }
  | value@(.dictionary _) | value@(.list _) | value@(.binary ..) =>
    { named? := some value, next := [value] }
  | value => { next := [value] }

/-- The part of a value that has a name; only a dictionary has such parts. -/
def namedPart (value : Value) (name : String) : Except Failure Value :=
  let noPart := fun (message : String) => Except.error (.fault .badType message)
  match value with
  | .dictionary entries => match Payload.valueOf? name entries with
    | some part => .ok part
    | none => .error (.fault .missingKey (Text.quoted name))
  | .binary .fixed _ => noPart "byte indices must be integers or slices, not str"
  | .binary .growable _ => noPart "bytearray indices must be integers or slices, not str"
  | .binary .view _ => noPart "memoryview: invalid slice key"
  | _ => noPart "list indices must be integers or slices, not str"

/-- Reading a message: the characters that are left, and the arguments that are. -/
structure Scanning where
  rest : List Char
  supply : Supply

/-- A step through a message. -/
abbrev Scanner := StateT Scanning (Except Failure)

namespace Scanner

/-- The message ends inside a directive. -/
def incomplete : Failure := .fault .badValue "incomplete format"

/-- The next argument. -/
def argument : Scanner Value := do
  let state ← get
  match state.supply.next with
  | [] => throw (.fault .badType "not enough arguments for format string")
  | value :: next => do
    set { state with supply := { state.supply with next } }
    pure value

/-- The characters of a name up to its closing parenthesis, inside `depth` further ones. -/
def nameFrom (depth : Nat) : List Char → Option (List Char × List Char)
  | [] => none
  | '(' :: rest => (nameFrom (depth + 1) rest).map fun (name, after) => ('(' :: name, after)
  | ')' :: rest =>
    match depth with
    | 0 => some ([], rest)
    | depth + 1 => (nameFrom depth rest).map fun (name, after) => (')' :: name, after)
  | character :: rest => (nameFrom depth rest).map fun (name, after) => (character :: name, after)

/-- Takes the argument of a name next, if a name follows. -/
def name : Scanner Unit := do
  let state ← get
  match state.rest with
  | '(' :: rest =>
    match state.supply.named? with
    | none => throw (.fault .badType "format requires a mapping")
    | some named =>
      match nameFrom 0 rest with
      | none => throw (.fault .badValue "incomplete format key")
      | some (name, after) => do
        let part ← namedPart named (String.ofList name)
        set (⟨after, { state.supply with next := [part] }⟩ : Scanning)
  | _ => pure ()

/-- The characters that satisfy a condition, up to the first that does not. -/
def takeWhile (condition : Char → Bool) : Scanner (List Char) := do
  let state ← get
  set { state with rest := state.rest.dropWhile condition }
  pure (state.rest.takeWhile condition)

/-- What a width or a precision is called and how great it can be. -/
structure Count where
  name : String
  /-- The kind of number that an argument in its place has to fit into. -/
  kind : String
  most : Nat

/-- The width of a directive. -/
def widthCount : Count where
  name := "width"
  kind := "ssize_t"
  most := 0x7fffffffffffffff

/-- The precision of a directive. -/
def precisionCount : Count where
  name := "precision"
  kind := "int"
  most := 0x7fffffff

/-- Reads a number, or takes it from the arguments in the place of a star. -/
def number (count : Count) : Scanner (Option Int) := do
  let state ← get
  match state.rest with
  | '*' :: rest => do
    set { state with rest }
    match ← argument with
    | .int number =>
      if (count.most : Int) < number || number < -(count.most : Int) - 1 then
        throw (.fault .overflow ("Python int too large to convert to C " ++ count.kind))
      else pure (some number)
    | .bool truth => pure (some (if truth then 1 else 0))
    | _ => throw (.fault .badType "* wants int")
  | _ => do
    let digits ← takeWhile Char.isDigit
    let number := Text.ofDigits (digits.map fun digit => digit.toNat - 48)
    if count.most < number then throw (.fault .badValue (count.name ++ " too big"))
    else pure (if digits.isEmpty then none else some number)

/-- The precision after a point; without digits it is zero. -/
def precision : Scanner (Option Nat) := do
  let state ← get
  match state.rest with
  | '.' :: rest => do
    set { state with rest }
    pure (some (((← number precisionCount).getD 0).toNat))
  | _ => pure none

/-- Leaves out a letter about the length of numbers. -/
def length : Scanner Unit := do
  let state ← get
  match state.rest with
  | letter :: rest =>
    if ['h', 'l', 'L'].contains letter then set { state with rest }
  | [] => pure ()

/-- A directive after its percent sign. -/
def directive : Scanner Directive := do
  name
  let flags ← takeWhile ['#', '0', '-', ' ', '+'].contains
  let width := (← number widthCount).getD 0
  let precision ← precision
  length
  let state ← get
  match state.rest with
  | [] => throw incomplete
  | letter :: rest => do
    set { state with rest }
    pure {
      alternate := flags.contains '#'
      zero := flags.contains '0'
      left := flags.contains '-' || width < 0
      blank := flags.contains ' '
      sign := flags.contains '+'
      width := width.natAbs
      precision
      letter }

end Scanner

/-- Writes a message of a known length; `steps` bounds the number of its directives. -/
def writeMessage (total : Nat) : Nat → Scanner Text.Points
  | 0 => pure []
  | steps + 1 => do
    let plain := (← Scanner.takeWhile (· ≠ '%')).map Char.toNat
    let state ← get
    match state.rest with
    | [] => pure plain
    | [_] => throw Scanner.incomplete
    | _ :: '%' :: rest => do
      set { state with rest }
      return plain ++ '%'.toNat :: (← writeMessage total steps)
    | _ :: rest => do
      set { state with rest }
      let directive ← Scanner.directive
      let position := total - (← get).rest.length - 1
      let written ← directive.apply position (← Scanner.argument)
      return plain ++ written ++ (← writeMessage total steps)

/-- The text of a message with its arguments. Without arguments, and with a value in their place
that does not hold, percent signs stand for themselves. -/
def messageText (message : String) (args : Value) : Except Failure Text.Points :=
  if !args.holds then .ok (Text.points message)
  else do
    let characters := message.toList
    let (written, state) ←
      (writeMessage characters.length (characters.length + 1)).run ⟨characters, .of args⟩
    if state.supply.named?.isNone && !state.supply.next.isEmpty then
      throw (.fault .badType "not all arguments converted during string formatting")
    else pure written

end PortableSql.Log
