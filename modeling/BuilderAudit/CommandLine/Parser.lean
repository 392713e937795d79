import BuilderAudit.CommandLine.Options

/-!
# Reading command lines

Arguments are read from left to right. An option that still waits for its value takes the next argument, unless that
argument starts with a hyphen and is longer than one; roots may stand anywhere. What has been read is taken over only
when the next option or root comes, so a fault in it can be hidden by a later argument that is no option at all.

* `Stop` : why no arguments come out;
* `Pending` : what has been read but not taken over;
* `Args.ofArguments`, `Args.parse` : what a command line says.
-/

namespace BuilderAudit.CommandLine

def hyphen : UInt8 := 0x2D

def equals : UInt8 := 0x3D

/-- Why a command line gives no arguments. -/
inductive Stop
  | unknownArgument
  /-- A value is missing, is none of those allowed, or is not valid UTF-8 where a text is wanted. -/
  | invalidValue
  /-- An option is given twice. -/
  | argumentConflict
  /-- A value is given to an option that takes none. -/
  | tooManyValues
  | help
  | version
  deriving DecidableEq, Repr

/-- What has been read but not taken over. -/
inductive Pending
  | nothing
  /-- An option, with its value if that has come. -/
  | setting (s : Setting) (value : Option Argument)
  | roots (values : List Argument)
  deriving DecidableEq, Repr

structure State where
  args : Args
  /-- The options with a value that have been taken over. -/
  given : List Setting
  pending : Pending
  deriving DecidableEq, Repr

/-- A path has to hold something. -/
def path? (value : Argument) : Except Stop Path := if value.isEmpty then .error .invalidValue else .ok ⟨value⟩

/-- A text has to be valid UTF-8. -/
def text? (value : Argument) : Except Stop String :=
  match Utf8.decode? value with
  | some text => .ok (String.ofList text)
  | none => .error .invalidValue

def Args.withSetting (a : Args) (value : Argument) : Setting → Except Stop Args
  | .config => (path? value).map fun p => { a with config := some p }
  | .pattern => (text? value).map fun text => { a with pattern := some text }
  | .marker => (text? value).map fun text => { a with marker := some text }
  | .destination => (path? value).map fun p => { a with destination := some p }
  | .builderNamespace => (text? value).map fun text => { a with builderNamespace := some text }
  | .format =>
    match [ReportFormat.text, .json].find? fun f => Argument.ofString f.name == value with
    | some f => .ok { a with format := f }
    | none => .error .invalidValue
  | .outputFile => (path? value).map fun p => { a with outputFile := some p }

namespace State

def start : State := ⟨Args.empty, [], .nothing⟩

/-- Takes over an option with its value. -/
def take (st : State) (s : Setting) (value : Argument) : Except Stop State :=
  if s ∈ st.given then .error .argumentConflict
  else (st.args.withSetting value s).map fun args => { st with args, given := s :: st.given }

/-- Takes over what has been read. -/
def settle (st : State) : Except Stop State :=
  match st.pending with
  | .nothing => .ok st
  | .setting _ none => .error .invalidValue
  | .setting s (some value) => { st with pending := .nothing }.take s value
  | .roots values => do
    let paths ← values.mapM path?
    return { st with args := { st.args with roots := st.args.roots ++ paths }, pending := .nothing }

def flag (st : State) (f : Flag) : Except Stop State := do
  let st ← st.settle
  match f with
  | .legacyMarkerCheck =>
    if st.args.legacyMarkerCheck then .error .argumentConflict
    else return { st with args := { st.args with legacyMarkerCheck := true } }
  | .skipUnreadable =>
    if st.args.skipUnreadable then .error .argumentConflict
    else return { st with args := { st.args with skipUnreadable := true } }
  | .verbose => return { st with args := { st.args with verbose := min 255 (st.args.verbose + 1) } }
  | .quiet =>
    if st.args.quiet then .error .argumentConflict
    else return { st with args := { st.args with quiet := true } }
  | .help => .error .help
  | .version => .error .version

/-- Reads an option that takes a value, with the value that is attached to it, if there is one. -/
def setting (st : State) (s : Setting) (attached : Option Argument) : Except Stop State := do
  let st ← st.settle
  match attached with
  | some value => st.take s value
  | none => return { st with pending := .setting s none }

def long (st : State) (text : Argument) : Except Stop State :=
  let attached := match text.dropWhile (· != equals) with
    | [] => none
    | _ :: value => some value
  match Switch.ofLongName? (text.takeWhile (· != equals)), attached with
  | none, _ => .error .unknownArgument
  | some (.setting s), value => st.setting s value
  | some (.flag f), none => st.flag f
  | some (.flag _), some _ => .error .tooManyValues

/-- Reads what stands behind one hyphen: letters of flags, and the last may be one that takes a value. -/
def short (st : State) : Argument → Except Stop State
  | [] => .ok st
  | b :: rest =>
    match Switch.ofByte? b with
    | none => .error .unknownArgument
    | some (.flag f) =>
      match st.flag f with
      | .ok st => short st rest
      | .error e => .error e
    | some (.setting s) =>
      match rest with
      | [] => st.setting s none
      | c :: value => st.setting s (some (if c = equals then value else c :: value))

def root (st : State) (value : Argument) : Except Stop State :=
  match st.pending with
  | .roots values => .ok { st with pending := .roots (values ++ [value]) }
  | _ => do
    let st ← st.settle
    return { st with pending := .roots [value] }

/-- Reads an argument that is no option: a value that is waited for, or a root. -/
def plain (st : State) (value : Argument) : Except Stop State :=
  match st.pending with
  | .setting s none => .ok { st with pending := .setting s (some value) }
  | _ => st.root value

/-- Reads an argument that is not the end of the options. -/
def argument (st : State) (arg : Argument) : Except Stop State :=
  match arg with
  | a :: b :: rest =>
    if a = hyphen then if b = hyphen then st.long rest else st.short (b :: rest)
    else st.plain arg
  | _ => st.plain arg

end State

/-- Reads arguments. Behind two hyphens that stand alone there are only roots. -/
def State.parse (st : State) : List Argument → Except Stop State
  | [] => .ok st
  | arg :: rest => if arg = [hyphen, hyphen] then rest.foldlM root st else st.argument arg >>= fun st => st.parse rest

def Args.ofArguments (argv : List Argument) : Except Stop Args := do
  let st ← State.start.parse argv
  return (← st.settle).args

/-- What a command line says whose arguments are texts. -/
def Args.parse (argv : List String) : Except Stop Args := ofArguments (argv.map Argument.ofString)

end BuilderAudit.CommandLine
