import PageLinker.Command

/-!
# Command line

A command line names a command and gives it options and file names.  An option has a long name of
two dashes or a short one of a dash and a letter.  Its value follows as the next argument, behind
an equals sign, or directly behind the letter.  Options may stand anywhere up to `--`, names are
not abbreviated, and the last value counts.  What a command does starts from the command that was
read, so nothing else depends on these rules.
-/

namespace PageLinker

/-- An option that a command knows. -/
structure OptionName where
  long : String
  short : Option Char
  takesValue : Bool
  deriving DecidableEq, Repr

/-- An argument after reading. -/
inductive Argument where
  | switch (option : OptionName)
  | value (option : OptionName) (text : String)
  | plain (text : String)
  deriving DecidableEq, Repr

namespace Argument

/-- The argument is written like an option.  A dash alone is not. -/
def looksLikeOption (text : String) : Bool :=
  match text.toList with
  | '-' :: _ :: _ => true
  | _ => false

/-- The parts before and behind the first equals sign. -/
def splitValue (text : String) : String × Option String :=
  let before := text.toList.takeWhile (· != '=')
  match text.toList.dropWhile (· != '=') with
  | [] => (text, none)
  | _ :: behind => (String.ofList before, some (String.ofList behind))

/-- Read short options that stand together behind one dash.  The answer names the option, if any,
that still needs a value. -/
def shortOptions (known : List OptionName) : List Char → Option (List Argument × Option OptionName)
  | [] => some ([], none)
  | letter :: rest =>
      match known.find? (·.short == some letter) with
      | none => none
      | some option =>
          if option.takesValue then
            if rest.isEmpty then some ([], some option)
            else some ([.value option (String.ofList rest)], none)
          else
            (shortOptions known rest).map fun read => (.switch option :: read.1, read.2)

/-- Read one argument that is written like an option. -/
def options (known : List OptionName) (text : String) :
    Option (List Argument × Option OptionName) :=
  let (long, given?) := splitValue text
  match known.find? (·.long == long), given? with
  | some option, some given =>
      if option.takesValue then some ([.value option given], none) else none
  | some option, none =>
      if option.takesValue then some ([], some option) else some ([.switch option], none)
  | none, _ =>
      match text.toList with
      | '-' :: '-' :: _ => none
      | _ :: letters => shortOptions known letters
      | [] => none

/-- Read all arguments, or nothing if one of them is wrong. -/
def readAll (known : List OptionName) : List String → Option (List Argument)
  | [] => some []
  | text :: rest =>
      if text == "--" then some (rest.map .plain)
      else if looksLikeOption text then
        match options known text with
        | none => none
        | some (read, none) => (readAll known rest).map (read ++ ·)
        | some (read, some option) =>
            match rest with
            | [] => none
            | given :: later =>
                (readAll known later).map fun others => read ++ .value option given :: others
      else (readAll known rest).map (.plain text :: ·)

/-- The last value that an option is given. -/
def lastValue (option : OptionName) (arguments : List Argument) : Option String :=
  arguments.foldl
    (fun found argument =>
      match argument with
      | .value other text => if other = option then some text else found
      | _ => found)
    none

def plainTexts (arguments : List Argument) : List String :=
  arguments.filterMap fun
    | .plain text => some text
    | _ => none

end Argument

namespace Command

/-- Print the completed files instead of writing them. -/
def previewOption : OptionName := ⟨"--dry-run", none, false⟩

def rootOption : OptionName := ⟨"--root", some 'r', true⟩

def settingsOption : OptionName := ⟨"--config", some 'c', true⟩

/-- Show the records of the journal while the command runs. -/
def progressOption : OptionName := ⟨"--debug", none, false⟩

def directoryOption : OptionName := ⟨"--path", some 'p', true⟩

def helpOption : OptionName := ⟨"--help", none, false⟩

/-- Read the arguments of a command, and make the command of them.  A request for help comes
before everything but a wrong option. -/
def read (known : List OptionName) (make : List Argument → Option Command)
    (arguments : List String) : Option Command :=
  match Argument.readAll (helpOption :: known) arguments with
  | none => none
  | some read => if read.contains (.switch helpOption) then some .help else make read

def pathOf (option : OptionName) (arguments : List Argument) : Option Path :=
  (Argument.lastValue option arguments).map Path.ofString

def readImports : List String → Option Command :=
  read [previewOption] fun arguments =>
    match Argument.plainTexts arguments with
    | [] => none
    | files =>
        some (.imports (files.map Path.ofString) (arguments.contains (.switch previewOption)))

/-- Write the indexes, or run a whole build. -/
def readTreeCommand (make : Option Path → Option Path → Bool → Command) :
    List String → Option Command :=
  read [rootOption, settingsOption, progressOption] fun arguments =>
    match Argument.plainTexts arguments with
    | [] =>
        some (make (pathOf rootOption arguments) (pathOf settingsOption arguments)
          (arguments.contains (.switch progressOption)))
    | _ => none

def readInit : List String → Option Command :=
  read [directoryOption] fun arguments =>
    match Argument.plainTexts arguments with
    | [] => some (.init ((pathOf directoryOption arguments).getD Path.here))
    | _ => none

/-- Read the name of a command and its arguments. -/
def ofName : List String → Option Command
  | [] => none
  | name :: arguments =>
      if name == "imports" then readImports arguments
      else if name == "index" then readTreeCommand .index arguments
      else if name == "build" then readTreeCommand .build arguments
      else if name == "init" then readInit arguments
      else none

/-- Read a command line, or nothing if it makes no sense. -/
def ofArguments : List String → Option Command
  | [] => none
  | first :: rest =>
      if first == "--" then ofName rest
      else if first == helpOption.long then some .help
      else ofName (first :: rest)

end Command

end PageLinker
