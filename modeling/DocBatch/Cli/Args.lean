import DocBatch.Cli.Grammar
import DocBatch.Text.Similarity

/-!
# Reading a command line

A command line names a command and then gives its arguments; reading it gives the command
with the values of its arguments, a help page to show, or a usage error. The words are read
left to right and the first fault wins:

* Before the command, `-h`/`--help` asks for the program's help, and `help [command]` for
  a help page. Any other word must be a command's name; an unknown one is suggested the
  commands of similar name.
* After the command, `--name` or `--name=value` is an option and `-xyz` a cluster of short
  options (only `-h` exists); anything else is the pending option's value, or else the next
  positional argument. After `--` every word is positional.
* A value is checked when it is read. An option given twice, a switch given a value, an
  option left without its value and a missing positional argument are faults; an unknown
  option is suggested the options of similar name.

With no words at all the program's help is the error.
-/

namespace DocBatch

namespace Cli

/-- What a command line asks for. -/
inductive Request where
  /-- Run a command with the values of its arguments, by option or argument name. -/
  | run (command : String) (values : List (String × String))
  /-- Show a help page. -/
  | help (page : String)
  /-- Refuse the command line with a usage error. -/
  | misuse (text : String)
  deriving Inhabited

/-- The tip of one or more similar names. -/
def similarTip (kind : String) : List String → List String
  | [] => []
  | [one] => ["a similar " ++ kind ++ " exists: '" ++ one ++ "'"]
  | many => ["some similar " ++ kind ++ "s exist: " ++ ", ".intercalate (many.map fun n => "'" ++ n ++ "'")]

/-- The error of an unknown word, with its tips and usage. -/
def unexpected (word : String) (tips : List String) (usage : String) : Request :=
  .misuse (errorText ("unexpected argument '" ++ word ++ "' found") tips (some usage))

/-- The error of an option left without its value. -/
def missingValue (spec : String) : Request :=
  .misuse (errorText ("a value is required for '" ++ spec ++ "' but none was supplied") [] none)

/-- An argument of a command that takes values: an option or a positional argument. -/
inductive Slot where
  | option (o : Opt)
  | positional (p : Positional)

/-- The state of reading a command's words. An argument's values are taken in (checked and
recorded) only when the next argument comes or the words end; until then it is pending. -/
structure Reading where
  /-- Names of the arguments taken in, in order. -/
  given : List String := []
  values : List (String × String) := []
  /-- The argument not yet taken in, with its value if it has one. -/
  pending : Option (Slot × Option String) := none
  positional : Nat := 0
  trailing : Bool := false

/-- Whether an option of the command waits for its value. -/
def Reading.waiting (st : Reading) : Bool :=
  match st.pending with
  | some (.option _, none) => true
  | _ => false

/-- The usage an error shows for the arguments given so far. -/
def usageFor (program : String) (c : Command) (given : List String) : String :=
  if given.isEmpty then c.usage program else c.usageWith program given

/-- Names with one more at the end, unless it is there already. -/
def withName (given : List String) (name : String) : List String :=
  if given.contains name then given else given ++ [name]

/-- The error of an argument given twice. -/
def repeated (program : String) (c : Command) (spec : String) : Request :=
  .misuse (errorText ("the argument '" ++ spec ++ "' cannot be used multiple times") [] (some (c.usage program)))

/-- The error of a value an option's check refuses. -/
def invalidValue (spec v message : String) : Request :=
  .misuse (errorText ("invalid value '" ++ v ++ "' for '" ++ spec ++ "': " ++ message) [] none)

/-- Takes in the pending argument: the state after it, and the fault it raised, if any. An
option given before is dropped by the fault; one whose value is refused stays given. -/
def takeIn (program : String) (c : Command) (st : Reading) : Reading × Option Request :=
  match st.pending with
  | none => (st, none)
  | some (slot, value) =>
    let st := { st with pending := none }
    match slot, value with
    | .option o, none => (st, some (missingValue o.spec))
    | .positional p, none => (st, some (missingValue p.spec))
    | .option o, some v =>
      if st.given.contains o.long then ({ st with given := st.given.erase o.long }, some (repeated program c o.spec))
      else
        let st := { st with given := st.given ++ [o.long] }
        match o.takes with
        | .value _ check =>
          match check v with
          | .error m => (st, some (invalidValue o.spec v m))
          | .ok () => ({ st with values := st.values ++ [(o.long, v)] }, none)
        | .nothing => ({ st with values := st.values ++ [(o.long, "true")] }, none)
    | .positional p, some v =>
      let st := { st with given := st.given ++ [p.name] }
      if v.isEmpty then (st, some (missingValue p.spec))
      else ({ st with values := st.values ++ [(p.name, v)] }, none)

/-- Takes in the pending argument, failing with its fault. -/
def takeInStrict (program : String) (c : Command) (st : Reading) : Except Request Reading :=
  match takeIn program c st with
  | (_, some r) => .error r
  | (st, none) => .ok st

/-- Sets a switch. -/
def setSwitch (program : String) (c : Command) (o : Opt) (st : Reading) : Except Request Reading :=
  if st.given.contains o.long then .error (repeated program c o.spec)
  else .ok { st with given := st.given ++ [o.long], values := st.values ++ [(o.long, "true")] }

/-- An unknown long option of a command: suggests a similar option. -/
def unknownLong (program : String) (c : Command) (name : String) (st : Reading) : Request :=
  let given := (takeIn program c st).1.given
  let longs := c.options.map (·.long) ++ ["help"]
  match (Similarity.similar name longs).getLast? with
  | some best =>
    unexpected ("--" ++ name) (similarTip "argument" ["--" ++ best]) (c.usageWith program (withName given best))
  | none =>
    let tips := if !c.positionals.isEmpty then
        ["to pass '--" ++ name ++ "' as a value, use '-- --" ++ name ++ "'"] else []
    unexpected ("--" ++ name) tips (usageFor program c given)

/-- A word that is a positional argument's value. -/
def positionalWord (program : String) (c : Command) (st : Reading) (w : String) : Except Request Reading :=
  match c.positionals[st.positional]? with
  | some p => do
    let st ← takeInStrict program c st
    return { st with pending := some (.positional p, some w), positional := st.positional + 1 }
  | none => .error (unexpected w [] (c.usage program))

/-- Reads a long option of a command, `--name` or `--name=value`. -/
def longWord (program : String) (c : Command) (st : Reading) (body : List Char) : Except Request Reading :=
  let name := String.ofList (body.takeWhile (· != '='))
  let attached := if body.contains '=' then some (String.ofList ((body.dropWhile (· != '=')).drop 1)) else none
  let extraValue := fun (long spec v : String) => Except.error (Request.misuse (errorText
    ("unexpected value '" ++ v ++ "' for '" ++ spec ++ "' found; no more were expected") []
    (some (c.usageWith program (withName st.given long)))))
  if name == "help" then
    match attached with
    | some v => extraValue "help" "--help" v
    | none => do
      let _ ← takeInStrict program c st
      .error (.help (c.helpPage program))
  else
    match c.options.find? (·.long == name) with
    | none => .error (unknownLong program c name st)
    | some o =>
      match o.takes, attached with
      | .nothing, some v => extraValue o.long o.spec v
      | .nothing, none => do setSwitch program c o (← takeInStrict program c st)
      | .value .., some v => do
        let st ← takeInStrict program c st
        takeInStrict program c { st with pending := some (.option o, some v) }
      | .value .., none => do
        let st ← takeInStrict program c st
        return { st with pending := some (.option o, none) }

/-- Reads one word of a command: the new state, or what the command line asks for. -/
def commandWord (program : String) (c : Command) (st : Reading) (w : String) : Except Request Reading :=
  if st.trailing then positionalWord program c st w
  else if w == "--" then .ok { st with trailing := true }
  else if w.startsWith "--" then longWord program c st (w.toList.drop 2)
  else if w.startsWith "-" && w.length > 1 then
    match w.toList.drop 1 with
    | 'h' :: _ => do
      let _ ← takeInStrict program c st
      .error (.help (c.helpPage program))
    | ch :: _ =>
      let word := "-" ++ String.singleton ch
      let tips := if !c.positionals.isEmpty then ["to pass '" ++ word ++ "' as a value, use '-- " ++ word ++ "'"] else []
      .error (unexpected word tips (c.usage program))
    | [] => .ok st
  else
    match st.pending with
    | some (.option o, none) => .ok { st with pending := some (.option o, some w) }
    | _ => positionalWord program c st w

/-- Reads the words of a command to their end. -/
def commandWords (program : String) (c : Command) : Reading → List String → Request
  | st, [] =>
    match takeInStrict program c st with
    | .error r => r
    | .ok st =>
      let missing := c.positionals.drop st.positional
      if missing.isEmpty then .run c.name st.values
      else
        .misuse (errorText ("the following required arguments were not provided:" ++
            String.join (missing.map fun p => "\n  " ++ p.spec)) []
          (some (c.usageWith program st.given)))
  | st, w :: rest =>
    match commandWord program c st w with
    | .ok st => commandWords program c st rest
    | .error r => r

/-- The help command's own page. -/
def helpCommandPage (program : String) : String :=
  "Print this message or the help of the given subcommand(s)\n\nUsage: " ++ program ++
    " help [COMMAND]...\n\nArguments:\n  [COMMAND]...  Print help for the subcommand(s)\n"

/-- `help` with the names that follow it: the help of the command they name. -/
def Program.helpFor (p : Program) : List String → Request
  | [] => .help p.helpPage
  | ["help"] => .help (helpCommandPage p.name)
  | "help" :: more :: _ =>
    .misuse (errorText ("unrecognized subcommand '" ++ more ++ "'") [] (some (p.name ++ " help [COMMAND]...")) false)
  | name :: rest =>
    match p.commands.find? (·.name == name), rest with
    | some c, [] => .help (c.helpPage p.name)
    | some c, more :: _ =>
      .misuse (errorText ("unrecognized subcommand '" ++ more ++ "'") [] (some (c.usage p.name)))
    | none, _ => .misuse (errorText ("unrecognized subcommand '" ++ name ++ "'") [] (some p.usage))

/-- Whether a word names a command (the help command included). -/
def Program.isCommand (p : Program) (w : String) : Bool := w == "help" || p.commands.any (·.name == w)

/-- A word before the command that names none. -/
def Program.notCommand (p : Program) (w : String) : Request :=
  let names := p.commands.map (·.name) ++ ["help"]
  .misuse (errorText ("unrecognized subcommand '" ++ w ++ "'") (similarTip "subcommand" (Similarity.similar w names))
    (some p.usage))

/-- An unknown long option before the command: suggests the help option when it is similar,
else a command's option when that command comes later. -/
def Program.unknownLong (p : Program) (name : String) (rest : List String) : Request :=
  if !(Similarity.similar name ["help"]).isEmpty then
    unexpected ("--" ++ name) (similarTip "argument" ["--help"]) (p.name ++ " --help <COMMAND>")
  else
  let found := p.commands.filterMap fun c =>
    match (Similarity.similar name (c.options.map (·.long) ++ ["help"])).getLast?, rest.idxOf? c.name with
    | some best, some at_ => some (at_, c.name, best)
    | _, _ => none
  let best := found.foldl (fun acc x => match acc with
    | some y => if x.1 < y.1 then some x else some y
    | none => some x) none
  let tips := match best with
    | some (_, cmd, opt) => ["'" ++ cmd ++ " --" ++ opt ++ "' exists"]
    | none => []
  unexpected ("--" ++ name) tips p.usage

/-- Reads the words before the command. -/
def Program.topWords (p : Program) (trailing : Bool) : List String → Request
  | [] => .misuse p.helpPage
  | w :: rest =>
    if trailing then
      if p.isCommand w then
        unexpected w ["subcommand '" ++ w ++ "' exists; to use it, remove the '--' before it"] p.usage
      else p.notCommand w
    else if w == "--" then p.topWords true rest
    else if w == "help" then p.helpFor rest
    else
      match p.commands.find? (·.name == w) with
      | some c => commandWords p.name c {} rest
      | none =>
        if w.startsWith "--" then
          let body := w.toList.drop 2
          let name := String.ofList (body.takeWhile (· != '='))
          if name == "help" then
            if body.contains '=' then
              .misuse (errorText ("unexpected value '" ++ String.ofList ((body.dropWhile (· != '=')).drop 1) ++
                "' for '--help' found; no more were expected") [] (some (p.name ++ " --help <COMMAND>")))
            else .help p.helpPage
          else p.unknownLong name rest
        else if w.startsWith "-" && w.length > 1 then
          match w.toList.drop 1 with
          | 'h' :: _ => .help p.helpPage
          | ch :: _ => unexpected ("-" ++ String.singleton ch) [] p.usage
          | [] => p.notCommand w
        else p.notCommand w

/-- Reads a command line. -/
def Program.read (p : Program) (args : List String) : Request := p.topWords false args

end Cli

end DocBatch
