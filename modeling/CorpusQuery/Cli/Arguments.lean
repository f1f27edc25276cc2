/-
  CorpusQuery.Cli.Arguments

  How a list of arguments is read: from left to right, where the value of a
  switch that stands in an argument of its own is looked at only when the next
  switch or operand is met, or at the end.
-/
import CorpusQuery.Cli.Invocation

namespace CorpusQuery.Cli

/-! ## Reading the arguments of one command -/

/-- What was read but is not taken over yet. -/
inductive Pending where
  /-- a switch that lacks its value -/
  | awaiting (switch : Switch)
  /-- a switch with its value -/
  | switch (switch : Switch) (value : String)
  /-- an operand -/
  | operand (value : String)
  deriving DecidableEq, Repr

/-- The state of reading the arguments of a command. -/
structure Reading where
  context : Context
  settings : Settings
  pending : Option Pending
  /-- only operands may follow -/
  operandsOnly : Bool
  deriving DecidableEq, Repr

namespace Reading

/-- A command of which no argument was read. -/
def start (context : Context) : Reading :=
  ⟨context, .empty, none, false⟩

/-- A switch lacks its value. -/
def isAwaiting (reading : Reading) : Bool :=
  match reading.pending with
  | some (.awaiting _) => true
  | _ => false

/-- Takes over what is pending. -/
def settle (reading : Reading) : Except Stop Reading :=
  match reading.pending with
  | none => .ok reading
  | some (.awaiting switch) => .error (.usage (.missingValue switch))
  | some (.switch switch value) =>
    (reading.settings.value switch value).map fun settings =>
      { reading with settings := settings, pending := none }
  | some (.operand value) =>
    if reading.context.operandIsPath && value = "" then .error (.usage .emptyOperand)
    else .ok { reading with
      settings := { reading.settings with operand := some value }, pending := none }

/-- Takes over a switch that has no value. Asking for help or for the version ends the reading. -/
def flag (reading : Reading) (switch : Switch) : Except Stop Reading := do
  let reading ← reading.settle
  match switch with
  | .help => .error (.help (some reading.context))
  | .version => .error .version
  | _ => do
    let settings ← reading.settings.flag switch
    return { reading with settings := settings }

/-- Takes over a switch with a value in the same argument. -/
def attached (reading : Reading) (switch : Switch) (value : String) : Except Stop Reading := do
  let reading ← reading.settle
  let settings ← reading.settings.value switch value
  return { reading with settings := settings }

/-- Meets a switch whose value has to follow in an argument of its own. -/
def await (reading : Reading) (switch : Switch) : Except Stop Reading := do
  let reading ← reading.settle
  return { reading with pending := some (.awaiting switch) }

/-- Reads a long switch: its name, and its value after an equals sign. -/
def long (reading : Reading) (text : List Char) : Except Stop Reading :=
  let name := String.ofList (text.takeWhile (· ≠ '='))
  match Switch.ofLong? reading.context name, text.dropWhile (· ≠ '=') with
  | none, _ => .error (.usage (.unknownSwitch name))
  | some switch, [] => if switch.takesValue then reading.await switch else reading.flag switch
  | some switch, _ :: value =>
    if switch.takesValue then reading.attached switch (String.ofList value)
    else .error (.usage (.unexpectedValue switch))

/-- Reads switches by their letters. The rest of the argument is the value of the first switch that
takes one, perhaps after an equals sign. -/
def letters (reading : Reading) : List Char → Except Stop Reading
  | [] => .ok reading
  | letter :: rest =>
    match Switch.ofLetter? reading.context letter with
    | none => .error (.usage (.unknownSwitch (String.ofList ['-', letter])))
    | some switch =>
      if switch.takesValue then
        match rest with
        | [] => reading.await switch
        | '=' :: value => reading.attached switch (String.ofList value)
        | value => reading.attached switch (String.ofList value)
      else do
        let reading ← reading.flag switch
        letters reading rest

/-- Reads an operand. -/
def operand (reading : Reading) (argument : String) : Except Stop Reading :=
  let unexpected := Except.error (Stop.usage (.unexpectedArgument argument))
  if reading.context.takesOperand then
    match reading.pending, reading.settings.operand with
    | some (.operand _), _ => unexpected
    | _, some _ => unexpected
    | _, none => do
      let reading ← reading.settle
      return { reading with pending := some (.operand argument) }
  else unexpected

/-- Reads an argument that names no command. -/
def argument (reading : Reading) (argument : String) : Except Stop Reading :=
  if reading.operandsOnly then reading.operand argument
  else
    match argument.toList with
    | ['-', '-'] => .ok { reading with operandsOnly := true }
    | '-' :: '-' :: text => reading.long text
    | '-' :: letter :: rest => reading.letters (letter :: rest)
    | _ =>
      match reading.pending with
      | some (.awaiting switch) =>
        .ok { reading with pending := some (.switch switch argument) }
      | _ => reading.operand argument

end Reading

/-! ## Reading all arguments -/

/-- The command that help is asked for by its path. Help on help is none of the commands. -/
def helpContext (context : Context) : List String → Except Stop (Option Context)
  | [] => .ok (some context)
  | name :: rest =>
    if name = "help" && context.isGroup then
      match rest with
      | [] => .ok none
      | other :: _ => .error (.usage (.unknownCommand other))
    else
      match context.command? name with
      | some next => helpContext next rest
      | none => .error (.usage (.unknownCommand name))

/-- The command that the settings of the innermost command make up. -/
def commandOf (context : Context) (settings : Settings) : Except Stop Command :=
  match context, settings.operand with
  | .translate, input => .ok (.translate settings.queryType input)
  | .tagToSuc, some tag => .ok (.tagToSuc tag)
  | .tagToUd, some tag => .ok (.tagToUd tag)
  | .configShow, _ => .ok (.configShow settings.json)
  | .configInit, path => .ok (.configInit path settings.force)
  | .tagToSuc, none => .error (.usage .missingOperand)
  | .tagToUd, none => .error (.usage .missingOperand)
  | _, _ => .error (.usage .missingCommand)

/-- Takes over what is pending of the commands above, the nearest first, and puts the settings of
the innermost command over theirs. -/
def settleAll (inner : Settings) : List Reading → Except Stop Settings
  | [] => .ok inner
  | outer :: rest => do
    let outer ← outer.settle
    settleAll (outer.settings.under inner) rest

/-- Ends the reading. -/
def finish (outer : List Reading) (reading : Reading) : Except Stop Invocation := do
  let reading ← reading.settle
  let command ← commandOf reading.context reading.settings
  let settings ← settleAll reading.settings outer
  return ⟨settings.logLevel, settings.verbose, settings.config, settings.format, command⟩

/-- Reads the rest of the arguments, below the commands in `outer`, the nearest first. A word is
taken as a command unless a switch awaits its value. -/
def readArguments (outer : List Reading) (reading : Reading) :
    List String → Except Stop Invocation
  | [] => finish outer reading
  | argument :: rest =>
    -- The command above keeps what is pending: it is taken over only after the arguments of the
    -- command below, so help on that command comes before an error in a value above it.
    let mayBeCommand := !reading.operandsOnly && !reading.isAwaiting
    if mayBeCommand && reading.context.isGroup && argument = "help" then
      match helpContext reading.context rest with
      | .ok context => .error (.help context)
      | .error stop => .error stop
    else
      match if mayBeCommand then reading.context.command? argument else none with
      | some next => readArguments (reading :: outer) (.start next) rest
      | none => do
        let reading ← reading.argument argument
        readArguments outer reading rest

/-- Reads the arguments of a run. -/
def readAll (arguments : List String) : Except Stop Invocation :=
  readArguments [] (.start .root) arguments

end CorpusQuery.Cli
