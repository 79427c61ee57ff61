import GatewayAgent.Program.Help

/-!
# The command line

The program takes options, a subcommand, and options of the subcommand. The option for the
configuration is accepted in both places; where it is given in both, the one of the subcommand
counts.

An option's value stands behind it (`-c x`, `--config x`), or is attached to it (`-cx`, `-c=x`,
`--config=x`). A value behind an option does not begin with a hyphen unless it is one. Requests
for help and for the version are answered at the place where they stand, so that only mistakes in
front of them count.
-/

namespace GatewayAgent.Program

/-- An option with a value. -/
inductive OptionKey where
  | config
  | outputDirectory
  | hostname
  deriving DecidableEq, Repr

namespace OptionKey

/-- The letter of an option. -/
def letter? : OptionKey → Option Char
  | config => some 'c'
  | outputDirectory => some 'o'
  | hostname => none

/-- The long name of an option. -/
def name : OptionKey → String
  | config => "config"
  | outputDirectory => "output-dir"
  | hostname => "hostname"

/-- Whether a value will do: there is no path without characters. -/
def Accepts (value : String) : OptionKey → Bool
  | config | outputDirectory => value ≠ ""
  | hostname => true

end OptionKey

/-- What is run. -/
inductive Subcommand where
  | serve
  | gencert
  | help
  deriving DecidableEq, Repr

/-- The name of a subcommand. -/
def Subcommand.name : Subcommand → String
  | serve => "serve"
  | gencert => "gencert"
  | help => "help"

/-- The topic of help about a subcommand. -/
def Subcommand.topic : Subcommand → HelpTopic
  | serve => .serve
  | gencert => .gencert
  | help => .program

/-- A part of the command line: what is accepted in it. -/
structure Level where
  topic : HelpTopic
  options : List OptionKey
  /-- Whether the version can be asked for. -/
  version : Bool := false
  subcommands : List Subcommand := []

namespace Level

/-- What is accepted in front of a subcommand. -/
def top : Level := ⟨.program, [.config], true, [.serve, .gencert, .help]⟩

/-- What is accepted behind `serve`. -/
def serve : Level := { topic := .serve, options := [.config] }

/-- What is accepted behind `gencert`. -/
def gencert : Level :=
  { topic := .gencert, options := [.outputDirectory, .hostname, .config] }

end Level

/-- Why the program does not run. -/
inductive Halt where
  /-- The command line is not one. -/
  | usage
  /-- There is a request for help, perhaps for all of it. -/
  | help (topic : HelpTopic) (long : Bool)
  | version
  deriving DecidableEq, Repr

/-- The options that were given, in order. -/
abbrev Given := List (OptionKey × String)

namespace Given

/-- The value of an option. -/
def value? (g : Given) (k : OptionKey) : Option String :=
  (g.find? fun e => e.1 = k).map (·.2)

/-- Whether no option is given twice and every value will do. -/
def Sound (g : Given) : Bool := (g.map (·.1)).Nodup && g.all fun (k, v) => k.Accepts v

end Given

/-! ### Single arguments -/

/-- What an argument is that no option waits for. -/
inductive ArgumentShape where
  | subcommand (s : Subcommand)
  /-- The mark behind which there are no options. -/
  | escape
  | option (key : OptionKey) (attached : Option String)
  | halt (h : Halt)
  | stray
  deriving DecidableEq, Repr

namespace ArgumentShape

/-- Separates a name from what is attached to it by an equals sign. -/
def splitAttached (cs : List Char) : List Char × Option String :=
  match cs.dropWhile (· ≠ '=') with
  | [] => (cs, none)
  | _ :: value => (cs.takeWhile (· ≠ '='), some (String.ofList value))

/-- A long option, behind its two hyphens. -/
def ofLong (l : Level) (cs : List Char) : ArgumentShape :=
  let (name, attached) := splitAttached cs
  match l.options.find? fun k => k.name.toList = name with
  | some k => option k attached
  | none =>
    if attached.isSome then stray
    else if name = "help".toList then halt (.help l.topic true)
    else if l.version && name = "version".toList then halt .version
    else stray

/-- The value that is attached to a letter. An equals sign in front of it is left out. -/
def attachedToLetter : List Char → Option String
  | [] => none
  | '=' :: value => some (String.ofList value)
  | value => some (String.ofList value)

/-- A short option, behind its hyphen. -/
def ofShort (l : Level) (letter : Char) (rest : List Char) : ArgumentShape :=
  match l.options.find? fun k => k.letter? = some letter with
  | some k => option k (attachedToLetter rest)
  | none =>
    if letter = 'h' then halt (.help l.topic false)
    else if l.version && letter = 'V' then halt .version
    else stray

/-- What an argument is. -/
def read (l : Level) (argument : String) : ArgumentShape :=
  match argument.toList with
  | ['-', '-'] => escape
  | '-' :: '-' :: cs => ofLong l cs
  | '-' :: c :: cs => ofShort l c cs
  | _ =>
    match l.subcommands.find? fun s => s.name = argument with
    | some s => subcommand s
    | none => stray

end ArgumentShape

/-! ### Levels -/

/-- What has been read of a level. -/
structure LevelScan where
  given : Given := []
  /-- The option that waits for its value. -/
  waiting : Option OptionKey := none
  deriving DecidableEq, Repr

/-- What a level comes to: what it holds, and the subcommand with its arguments behind it. -/
structure LevelResult where
  given : Given
  below : Option (Subcommand × List String)
  deriving DecidableEq, Repr

/-- Whether an argument can be the value of the option in front of it. -/
def Detached (argument : String) : Bool := argument = "-" || argument.toList.head? ≠ some '-'

namespace Level

/-- Reads a level up to its end or to a subcommand. What was given is looked at whenever another
option follows; at the end this is left to the caller. -/
def scan (l : Level) : LevelScan → List String → Except Halt LevelResult
  | ⟨given, none⟩, [] => .ok ⟨given, none⟩
  | ⟨_, some _⟩, [] => .error .usage
  | ⟨given, some k⟩, a :: rest =>
    if Detached a then l.scan ⟨given ++ [(k, a)], none⟩ rest else .error .usage
  | ⟨given, none⟩, a :: rest =>
    match ArgumentShape.read l a with
    | .subcommand s => .ok ⟨given, some (s, rest)⟩
    | .escape => if rest.isEmpty then .ok ⟨given, none⟩ else .error .usage
    | .option k attached =>
      if !given.Sound then .error .usage
      else
        match attached with
        | some value =>
          let given : Given := given ++ [(k, value)]
          if given.Sound then l.scan ⟨given, none⟩ rest else .error .usage
        | none => l.scan ⟨given, some k⟩ rest
    | .halt h => .error (if given.Sound then h else .usage)
    | .stray => .error .usage

/-- Reads a level that is the last one. -/
def scanLast (l : Level) (arguments : List String) : Except Halt Given := do
  let r ← l.scan {} arguments
  if r.given.Sound then .ok r.given else .error .usage

end Level

/-! ### The whole command line -/

/-- What the program is asked to do. -/
inductive Task where
  /-- Run the agent with the configuration in a file. -/
  | serve (config : String)
  /-- Make certificates for a host in a directory. -/
  | gencert (directory hostname : String)
  deriving DecidableEq, Repr

namespace Task

/-- The file with the configuration: the innermost option counts, then the environment. At each
level without the option the variable is looked at, and must not be empty. -/
def configPath (env : Environment) (levels : List Given) : Except Halt String :=
  let fromLevels := levels.reverse.findSome? (·.value? .config)
  if env configVariable = some "" && levels.any fun g => (g.value? .config).isNone then
    .error .usage
  else .ok (fromLevels.getD ((env configVariable).getD standardConfig))

/-- What is asked for behind `help`: nothing, or one subcommand. -/
def helpTopic (arguments : List String) : Halt :=
  match arguments with
  | [] => .help .program true
  | [a] =>
    match Level.top.subcommands.find? fun s => s.name = a with
    | some s => .help s.topic true
    | none => .usage
  | _ => .usage

/-- What the program is asked to do by its arguments. -/
def read (env : Environment) (arguments : List String) : Except Halt Task := do
  let outer ← Level.top.scan {} arguments
  match outer.below with
  | some (.help, rest) => .error (helpTopic rest)
  | some (.gencert, rest) =>
    let inner ← Level.gencert.scanLast rest
    if !outer.given.Sound then .error .usage
    else
      let _ ← configPath env [outer.given, inner]
      match inner.value? .outputDirectory, inner.value? .hostname with
      | some directory, some hostname => .ok (.gencert directory hostname)
      | _, _ => .error .usage
  | some (.serve, rest) =>
    let inner ← Level.serve.scanLast rest
    if outer.given.Sound then .serve <$> configPath env [outer.given, inner] else .error .usage
  | none =>
    if outer.given.Sound then .serve <$> configPath env [outer.given] else .error .usage

end Task

end GatewayAgent.Program
