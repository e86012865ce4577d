/-!
# Command-line grammars and their help

A program's command line is a list of commands, each with long options (which take a value
or not), positional arguments (all required), and the help option `-h, --help`. This module
describes such a grammar and writes what a reader sees of it: the help of the program and of
each command, the one-line usages, and the texts of usage errors.

Help lists each option under `Options:` (positional arguments under `Arguments:`), its name
in one column and its help in the next, the column as wide as the widest name. When the
names take more than two fifths of a 100-column line and some help would not fit beside
them (counting four more columns for an option), every help of the list goes on its own
line instead, indented by ten.

A usage error reads `error: <message>`, then tips, then the usage, then where to find more.
-/

namespace DocBatch

namespace Cli

/-- What an option takes. -/
inductive Takes where
  /-- Nothing: the option is a switch. -/
  | nothing
  /-- One value, shown under a name, and read by a check that may refuse it. -/
  | value (name : String) (check : String → Except String Unit)

/-- A long option of a command. -/
structure Opt where
  long : String
  takes : Takes
  help : String
  default? : Option String := none

/-- A positional argument of a command; every one is required. -/
structure Positional where
  name : String
  help : String

/-- A command of a program. -/
structure Command where
  name : String
  about : String
  options : List Opt := []
  positionals : List Positional := []

/-- A program with commands. -/
structure Program where
  name : String
  about : String
  commands : List Command

/-- The help option's help. -/
def helpText : String := "Print help"

/-- The width of the help column's lines. -/
def lineWidth : Nat := 100

/-- `n` spaces. -/
def spaces (n : Nat) : String := String.ofList (List.replicate n ' ')

/-- A text padded with spaces to a width. -/
def pad (width : Nat) (s : String) : String := s ++ spaces (width - s.length)

/-- How an option is named in help and in messages. -/
def Opt.spec (o : Opt) : String :=
  match o.takes with
  | .nothing => "--" ++ o.long
  | .value name _ => "--" ++ o.long ++ " <" ++ name ++ ">"

/-- How a positional argument is named. -/
def Positional.spec (p : Positional) : String := "<" ++ p.name ++ ">"

/-- The default of an option as help shows it. -/
def Opt.defaultNote (o : Opt) : String :=
  match o.default? with
  | some d => "[default: " ++ d ++ "]"
  | none => ""

/-- An option's help with its default. -/
def Opt.fullHelp (o : Opt) : String :=
  if o.default?.isSome then o.help ++ " " ++ o.defaultNote else o.help

/-- A row of a help list: how the item is named (after its short form, if any), whether
it is an option, its help, and the width its help needs (the space before a default not
counted). -/
structure Row where
  short : String
  spec : String
  isOption : Bool
  help : String
  width : Nat

/-- The rows of a command's options, the help option last. -/
def Command.optionRows (c : Command) : List Row :=
  c.options.map (fun o => ⟨"    ", o.spec, true, o.fullHelp, o.help.length + o.defaultNote.length⟩) ++
    [⟨"-h, ", "--help", true, helpText, helpText.length⟩]

/-- Writes a help list: each row's name and help, beside each other or on two lines. -/
def renderRows (rows : List Row) : String :=
  let longest := rows.foldl (fun m r => max m (r.spec.length + (if r.isOption then 4 else 0))) 0
  -- the columns taken before a help, counted generously for options
  let taken := fun (r : Row) => if r.isOption then longest + 8 else longest + 4
  let nextLine := rows.any fun r =>
    let t := taken r
    lineWidth ≥ t && 2 * lineWidth < 5 * t && r.width > lineWidth - t
  let row := fun (r : Row) =>
    let name := (if r.isOption then r.short else "") ++ r.spec
    if nextLine then "  " ++ name ++ "\n" ++ spaces 10 ++ r.help
    else "  " ++ pad longest name ++ "  " ++ r.help
  "\n".intercalate (rows.map row)

/-- The usage of a command with none of its arguments given. -/
def Command.usage (program : String) (c : Command) : String :=
  let options := if c.options.isEmpty then "" else " [OPTIONS]"
  let positionals := String.join (c.positionals.map fun p => " " ++ p.spec)
  program ++ " " ++ c.name ++ options ++ positionals

/-- The usage of a command naming the options given (in the order given) and its
positional arguments. -/
def Command.usageWith (program : String) (c : Command) (given : List String) : String :=
  let named := given.filterMap fun g =>
    if g == "help" then some "--help" else (c.options.find? (·.long == g)).map Opt.spec
  program ++ " " ++ c.name ++ String.join (named.map (" " ++ ·)) ++
    String.join (c.positionals.map fun p => " " ++ p.spec)

/-- The usage of a program. -/
def Program.usage (p : Program) : String := p.name ++ " <COMMAND>"

/-- The help of a command. -/
def Command.helpPage (program : String) (c : Command) : String :=
  let arguments := if c.positionals.isEmpty then ""
    else "Arguments:\n" ++ renderRows (c.positionals.map fun p => ⟨"", p.spec, false, p.help, p.help.length⟩) ++ "\n\n"
  c.about ++ "\n\nUsage: " ++ c.usage program ++ "\n\n" ++ arguments ++ "Options:\n" ++
    renderRows c.optionRows ++ "\n"

/-- The help of the program. -/
def Program.helpPage (p : Program) : String :=
  let helpCommand : Command := ⟨"help", "Print this message or the help of the given subcommand(s)", [], []⟩
  let commands := p.commands ++ [helpCommand]
  let width := commands.foldl (fun m c => max m c.name.length) 0
  p.about ++ "\n\nUsage: " ++ p.usage ++ "\n\nCommands:\n" ++
    "\n".intercalate (commands.map fun c => "  " ++ pad width c.name ++ "  " ++ c.about) ++
    "\n\nOptions:\n  -h, --help  " ++ helpText ++ "\n"

/-- The text of a usage error: the message, tips, the usage if any, and a pointer to
`--help` when the command at fault has that option (the help command has not). -/
def errorText (message : String) (tips : List String) (usage : Option String)
    (hasHelp : Bool := true) : String :=
  "error: " ++ message ++
    (if tips.isEmpty then "" else "\n" ++ String.join (tips.map ("\n  tip: " ++ ·))) ++
    (match usage with
     | some u => "\n\nUsage: " ++ u
     | none => "") ++
    (if hasHelp then "\n\nFor more information, try '--help'.\n" else "\n")

end Cli

end DocBatch
