/-!
# Command lines

The program has two commands. `update` reconciles a catalog with the registry, `coords` prints the
coordinate listing of a catalog. This module reads the words of a command line.

* A long option is `--name`, with its value behind `=` or as the next word; a short one is a
  letter behind a dash, with its value behind it, with or without `=`, or as the next word. Short
  options stand behind one dash together, the last of them with a value if it takes one.
* A value in a word of its own does not start with a dash, unless it is the dash alone. After the
  word `--` every word is an argument.
* An option is given once, save the one that counts. A value is not empty.
* The parts of a line are taken in order, and a request for help or for the version ends the
  reading at its letter, whatever follows it.
* Three options are common to the program and its commands. Given at both places, the one of the
  command counts; the quiet one and the verbose one exclude each other at one place.
-/

namespace RadarCatalog.Command

/-! ## 1. Options -/

/-- The options of the program and of its commands. -/
inductive Key where
  | config
  | verbose
  | quiet
  | help
  | version
  | currentFile
  | updatedFile
  | allowFile
  | verify
  | coordFile
  | snapshotFile
  | inputFile
  | plain
  | moreRadars
  | currentOnly
  | remind
  | output
deriving DecidableEq

/-- How an option is written, and whether it takes a value. -/
structure Spelling where
  key : Key
  short : Option Char
  long : String
  takesValue : Bool
deriving DecidableEq

/-- The options that the program and its commands have in common. -/
def commonOptions : List Spelling :=
  [⟨.config, none, "config", true⟩, ⟨.verbose, some 'v', "verbose", false⟩,
    ⟨.quiet, some 'q', "quiet", false⟩, ⟨.help, some 'h', "help", false⟩]

/-- The options of the program, in front of a command. -/
def programOptions : List Spelling := ⟨.version, some 'V', "version", false⟩ :: commonOptions

/-- The options of `update`. -/
def updateOptions : List Spelling :=
  [⟨.currentFile, some 'u', "current-file", true⟩, ⟨.updatedFile, some 'o', "updated-file", true⟩,
    ⟨.allowFile, some 'U', "to-update-csv", true⟩, ⟨.verify, some 't', "verify", false⟩,
    ⟨.coordFile, some 'c', "coord-file", true⟩, ⟨.snapshotFile, some 'r', "resp-file", true⟩,
    ⟨.inputFile, some 'i', "input-json", true⟩, ⟨.plain, some 'j', "json-dump", false⟩,
    ⟨.moreRadars, some 'm', "more-radars", false⟩,
    ⟨.currentOnly, some 'C', "current-only", false⟩, ⟨.remind, some 'w', "warn", false⟩] ++
    commonOptions

/-- The options of `coords`. -/
def coordsOptions : List Spelling := ⟨.output, some 'o', "output", true⟩ :: commonOptions

/-- An option as it is given. -/
structure Given where
  key : Key
  value : Option String
deriving DecidableEq

/-- Why the words are not taken any further: a mistake, or a request that comes before all. -/
inductive Halt where
  | mistake
  | help
  | version
deriving DecidableEq

/-! ## 2. One word -/

/-- What a word is: options, the last of which may still want its value; options in front of a
    part that is none; or an argument. -/
inductive Word where
  | options (given : List Given) (wants : Option Key)
  | broken (given : List Given)
  | argument (text : String)

/-- Options, the last of them with a value behind it in the same word. -/
def attached (given : List Given) (key : Key) (value : List Char) : Word :=
  if value.isEmpty then .broken given
  else .options (given ++ [⟨key, some (String.ofList value)⟩]) none

/-- The text before the first equals sign and, where there is one, the text after it. -/
def cutAtEquals (cs : List Char) : List Char × Option (List Char) :=
  match cs.span (· ≠ '=') with
  | (name, _ :: value) => (name, some value)
  | (name, []) => (name, none)

/-- A word behind two dashes. -/
def readLong (options : List Spelling) (cs : List Char) : Word :=
  let (name, value) := cutAtEquals cs
  match options.find? fun o => o.long.toList = name with
  | none => .broken []
  | some o =>
    match o.takesValue, value with
    | true, some v => attached [] o.key v
    | true, none => .options [] (some o.key)
    | false, none => .options [⟨o.key, none⟩] none
    | false, some _ => .broken []

/-- The letters behind one dash. -/
def readShort (options : List Spelling) : List Given → List Char → Word
  | given, [] => .options given.reverse none
  | given, c :: cs =>
    match options.find? fun o => o.short = some c with
    | none => .broken given.reverse
    | some o =>
      if o.takesValue then
        match cs with
        | [] => .options given.reverse (some o.key)
        | '=' :: value => attached given.reverse o.key value
        | value => attached given.reverse o.key value
      else readShort options (⟨o.key, none⟩ :: given) cs

/-- A word. -/
def readWord (options : List Spelling) (word : String) : Word :=
  match word.toList with
  | '-' :: '-' :: cs => readLong options cs
  | '-' :: c :: cs => readShort options [] (c :: cs)
  | _ => .argument word

/-- The word may be the value of the option before it. -/
def isValue (word : String) : Bool :=
  match word.toList with
  | '-' :: _ :: _ => false
  | [] => false
  | _ => true

/-! ## 3. The words of one place -/

/-- The options and arguments of the program or of a command. -/
structure Place where
  given : List Given
  arguments : List String
deriving DecidableEq

namespace Place

/-- Nothing given. -/
def empty : Place := ⟨[], []⟩

/-- The option is given. -/
def has (p : Place) (key : Key) : Bool := p.given.any fun g => g.key = key

/-- The value of an option. -/
def value? (p : Place) (key : Key) : Option String :=
  (p.given.find? fun g => g.key = key).bind Given.value

/-- How often an option is given. -/
def count (p : Place) (key : Key) : Nat := p.given.countP fun g => g.key = key

/-- Takes an option as it is given. -/
def add (p : Place) (g : Given) : Except Halt Place :=
  if g.key = .help then .error .help
  else if g.key = .version then .error .version
  else if p.has g.key && g.key ≠ .verbose then .error .mistake
  else .ok { p with given := p.given ++ [g] }

/-- Takes some options in order. -/
def addAll (p : Place) (gs : List Given) : Except Halt Place := gs.foldlM add p

end Place

/-- Takes the words of a command. -/
def readPlace (options : List Spelling) : Place → List String → Except Halt Place
  | p, [] => .ok p
  | p, word :: rest =>
    if word = "--" then .ok { p with arguments := p.arguments ++ rest }
    else
      match readWord options word with
      | .argument text =>
        if text.isEmpty then .error .mistake
        else readPlace options { p with arguments := p.arguments ++ [text] } rest
      | .broken given => do
        let _ ← p.addAll given
        .error .mistake
      | .options given none => do readPlace options (← p.addAll given) rest
      | .options given (some key) => do
        let p ← p.addAll given
        match rest with
        | [] => .error .mistake
        | value :: rest =>
          if isValue value then readPlace options (← p.add ⟨key, some value⟩) rest
          else .error .mistake

/-- Takes the words in front of a command, and gives the words from the command on. -/
def readProgram : Place → List String → Except Halt (Place × List String)
  | _, [] => .error .mistake
  | p, word :: rest =>
    match readWord programOptions word with
    | .argument text => .ok (p, text :: rest)
    | .broken given => do
      let _ ← p.addAll given
      .error .mistake
    | .options given none => do readProgram (← p.addAll given) rest
    | .options given (some key) => do
      let p ← p.addAll given
      match rest with
      | [] => .error .mistake
      | value :: rest =>
        if isValue value then readProgram (← p.add ⟨key, some value⟩) rest else .error .mistake

/-! ## 4. The command line -/

/-- What `update` is asked to do. -/
structure UpdateRequest where
  currentFile : Option String
  updatedFile : Option String
  allowFile : Option String
  verify : Bool
  coordFile : Option String
  snapshotFile : Option String
  inputFile : Option String
  plain : Bool
  moreRadars : Bool
  currentOnly : Bool
  remind : Bool
deriving DecidableEq, Inhabited

/-- What `coords` is asked to do. -/
structure CoordsRequest where
  catalog : String
  output : Option String
deriving DecidableEq, Inhabited

/-- A command with what it is asked to do. -/
inductive Request where
  | update (r : UpdateRequest)
  | coords (r : CoordsRequest)
deriving DecidableEq

/-- A command line: the settings file, how much to log, and the command. -/
structure CommandLine where
  settingsFile : Option String
  verbosity : Nat
  quiet : Bool
  request : Request
deriving DecidableEq

/-- What the options of `update` ask for. -/
def UpdateRequest.ofPlace (p : Place) : Option UpdateRequest :=
  if p.arguments.isEmpty then
    some {
      currentFile := p.value? .currentFile
      updatedFile := p.value? .updatedFile
      allowFile := p.value? .allowFile
      verify := p.has .verify
      coordFile := p.value? .coordFile
      snapshotFile := p.value? .snapshotFile
      inputFile := p.value? .inputFile
      plain := p.has .plain
      moreRadars := p.has .moreRadars
      currentOnly := p.has .currentOnly
      remind := p.has .remind }
  else none

/-- What the words of `coords` ask for. -/
def CoordsRequest.ofPlace (p : Place) : Option CoordsRequest :=
  match p.arguments with
  | [catalog] => if catalog.isEmpty then none else some ⟨catalog, p.value? .output⟩
  | _ => none

/-- The quiet and the verbose option are not both given at one place. -/
def isConsistent (p : Place) : Bool := !(p.has .quiet && p.has .verbose)

/-- The settings file: that of the command, that of the program, or that of the environment. An
    empty one in the environment is a mistake unless both places name one of their own. -/
def settingsFile (environment : Option String) (program command : Place) :
    Except Halt (Option String) :=
  if environment = some "" && !(program.has .config && command.has .config) then .error .mistake
  else .ok (((command.value? .config).or (program.value? .config)).or environment)

/-- Puts the words of the program and of the command together. -/
def assemble (environment : Option String) (program command : Place) (request : Option Request) :
    Except Halt CommandLine := do
  let settingsFile ← settingsFile environment program command
  let verbosity :=
    if command.has .verbose then command.count .verbose else program.count .verbose
  match request with
  | some request =>
    if isConsistent program && isConsistent command then
      return ⟨settingsFile, verbosity, program.has .quiet || command.has .quiet, request⟩
    else throw .mistake
  | none => throw .mistake

/-- Help is there for the program and for each of its commands. -/
def isTopic (words : List String) : Bool :=
  words = [] || words = ["update"] || words = ["coords"] || words = ["help"]

/-- Reads a command line; `environment` is the settings file that the environment names. -/
def readCommandLine (environment : Option String) (words : List String) :
    Except Halt CommandLine := do
  let (program, rest) ← readProgram .empty words
  match rest with
  | "update" :: rest =>
    let command ← readPlace updateOptions .empty rest
    assemble environment program command ((UpdateRequest.ofPlace command).map Request.update)
  | "coords" :: rest =>
    let command ← readPlace coordsOptions .empty rest
    assemble environment program command ((CoordsRequest.ofPlace command).map Request.coords)
  | "help" :: topics => throw (if isTopic topics then .help else .mistake)
  | _ => throw .mistake

end RadarCatalog.Command
