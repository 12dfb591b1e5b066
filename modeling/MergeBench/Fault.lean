import MergeBench.Duration
import MergeBench.FileSystem.Basic
import MergeBench.Json.Printer
import MergeBench.Json.Reader
import MergeBench.ShellWords
import MergeBench.Yaml.Data

namespace MergeBench

/-- A configuration or a build context that cannot be worked with. -/
inductive ConfigError where
  | fileMissing (path : String)
  | malformedYaml (path : String)
  | notMapping (path : String)
  | unknownKeys (path : String) (keys : List String)
  | notCommand (key : String) (typeName : String)
  | emptyCommand (key : String)
  | timeoutNotInteger (written : String)
  | negativeTimeout (seconds : String)
  | emptyText (key : String)
  | missingFlag (name sentinel : String)
  | missingBranch (name flag : String)
  | missingArtifacts (directory : String) (names : List String)
  deriving Repr

namespace ConfigError

def message : ConfigError → String
  | fileMissing path => s!"Config file not found: {path}"
  | malformedYaml path => s!"Invalid YAML in {path}: the document is malformed"
  | notMapping path => s!"Config YAML must be a mapping/object at top level: {path}"
  | unknownKeys path keys =>
    let shown := ", ".intercalate keys
    s!"Unknown config keys in {path}: {shown}"
  | notCommand key typeName => s!"{key} must be a string or a list, got {typeName}"
  | emptyCommand key => s!"{key} must not be empty"
  | timeoutNotInteger written => s!"timeout_seconds must be an integer, got {written}"
  | negativeTimeout seconds => s!"timeout_seconds must be >= 0, got {seconds}"
  | emptyText key => s!"{key} must not be empty"
  | missingFlag name sentinel =>
    s!"Missing {name}. Run this inside a CI build, " ++
      s!"or pass --pr <id> (use --pr {sentinel} to skip)."
  | missingBranch name flag =>
    s!"Missing {name} for PR #{flag}. Set it in the environment or pass --branch <name>."
  | missingArtifacts directory names =>
    let shown := ", ".intercalate names
    s!"Missing benchmark artifacts under {directory}: {shown}"

end ConfigError

inductive Notice where
  | invalidLogLevel (name : String)
  | artifactsRequired
  deriving DecidableEq, Repr

def Notice.message : Notice → String
  | .invalidLogLevel name => s!"Invalid log level: {name}"
  | .artifactsRequired =>
    "compare mode requires --baseline and --candidate (artifact names in the benches dir)."

inductive Fault where
  | config (e : ConfigError)
  | notice (n : Notice)
  | file (e : FileError)
  | home (e : HomeError)
  | linkLoop (path : String)
  | encoding (e : Text.Utf8Error)
  | split (e : ShellWords.SplitError)
  /-- A configuration file that is well formed, but holds no data. -/
  | data (e : Yaml.DataError)
  /-- Keys that are not all text are neither sorted nor listed. -/
  | unlistableKeys
  | infiniteTimeout
  | unwritable (e : Value.WriteError)
  | limit (e : LimitError)
  | json (e : Json.ReadError)
  | unprintable (e : Json.PrintError)
  /-- No text that is passed to the system holds a NUL. -/
  | nullCharacter
  | emptyCommand
  | illegalVariable
  /-- The system cannot be asked for a variable of this name. -/
  | variableName (e : Text.HalfError)
  | flagWithoutText
  deriving Repr

namespace Fault

/-- The largest number that is checked against the range of characters. -/
def characterLimit : Nat := 0x7FFFFFFF

def dataMessage : Yaml.DataError → String
  | .malformed => "the document is malformed"
  | .noCharacter n =>
    if n ≤ characterLimit then "chr() arg not in range(0x110000)"
    else "Python int too large to convert to C int"
  | .integer e => e.message
  | .decimal e => e.message
  | .hugeUnit => "int too large to convert to float"
  | .calendar e => e.message
  | .emptyNumeral => "a number without digits"
  | .noTruthWord => "a truth value that is no truth word"
  | .noTimestamp => "a timestamp that is no date"
  | .timestampMapping => "a timestamp that is a mapping"
  | .tooDeep => "maximum recursion depth exceeded"

def nestedText : Collection → String
  | .list => "a JSON array from a unicode string"
  | .map => "a JSON object from a unicode string"

def message : Fault → String
  | config e => e.message
  | notice n => n.message
  | file e => e.message
  | home e => e.message
  | linkLoop path => s!"Symlink loop from {Text.quoted path}"
  | encoding e => e.message
  | split e => e.message
  | data e => dataMessage e
  | unlistableKeys => "keys of the configuration are not all text"
  | unwritable (.integer e) => e.message
  | unwritable .tooDeep =>
    "maximum recursion depth exceeded while getting the repr of an object"
  | limit e => e.message
  | infiniteTimeout => "cannot convert float infinity to integer"
  | json (.syntactic e) => e.message
  | json (.integer e) => e.message
  | json (.tooDeep shape) => s!"maximum recursion depth exceeded while decoding {nestedText shape}"
  | unprintable (.value typeName) => s!"Object of type {typeName} is not JSON serializable"
  | unprintable (.integer e) => e.message
  | unprintable (.encoding e) => e.message
  | unprintable (.key typeName) =>
    s!"keys must be str, int, float, bool or None, not {typeName}"
  | nullCharacter => "embedded null byte"
  | emptyCommand => "list index out of range"
  | illegalVariable => "illegal environment variable name"
  | variableName e => e.message
  | flagWithoutText => "the flag of the build is no text"

end Fault

end MergeBench
