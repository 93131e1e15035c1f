import WebLint.Json.Reader
import WebLint.Pattern.Complaint
import WebLint.Record.Problem
import WebLint.Text.Utf8

namespace WebLint

inductive Breakdown (φ : Type)
  | raised (cause : φ)
  | gave (kind : Text)
  | stated (reason : Text)

inductive FileTrouble
  | isDirectory
  | alreadyExists
  | notDirectory
  | notFound
deriving DecidableEq

inductive Fault
  | unknownDialect (name : Value)
  | unknownTool (name : Value)
  | unknownStage (name : Value)
  | stageNamesRequired
  | stageListRequired
  | resourceRequired
  | textRequired
  | groupsRequired
  | adapterRequired
  | reportRequired (given : Option Text)
  | notStage (index : Nat) (given : Value)
  | unknownSuffix (path : Text)
  | unknownItemFields (tool : Text) (names : List Text)
  | payloadMalformed (why : Json.Complaint) (place : Json.Place)
  | payloadShape
  | entryNotObject (index : Nat)
  | entryUnnamed (index : Nat)
  | recordsNotList (path : Text)
  | recordNotObject (path : Text) (given : Value)
  | recordInvalid (type : RecordType) (path : Text) (problems : List Problem)
  | pathInvalid (path : Value) (problems : List Problem)
  | patternInvalid (source : Text) (why : Pattern.Complaint)
  | settingsMissing (path : Text)
  | settingsMalformed (path : Text)
  | settingsInvalid (path : Text) (problems : List Problem)
  | adaptation (path : Value) (index : Nat) (cause : Fault)
  | stage (index : Nat) (name uri : Text) (why : Breakdown Fault)
  | invalid (type : RecordType) (problems : List Problem)
  | numeralTooLong (digits : Nat)
  | integerTooLong
  | numeralUnreadable (numeral : Text)
  | notInteger (part : Text) (given : Value)
  | noSuchPart
  | undecodable (what : Malformed)
  | patternRefused (source : Text) (why : Pattern.Complaint)
  | replacementRefused (source : Text) (why : Pattern.Complaint)
  | unopenedTag (tag : Text) (position : Nat)
  | nothingToClose (position : Nat)
  | file (trouble : FileTrouble) (path : Text)
  | nulInPath
  | other (kind message : Text)

namespace Fault

/-- The words for what other formats complain about: the problems of a record, and the place where
a settings file cannot be read. -/
structure Wording where
  problems : RecordType → List Problem → Text
  syntaxFault : Text

def limitMessage (detail : Text) : Text :=
  "Exceeds the limit (" ++ numeral digitLimit ++ " digits) for integer string conversion" ++
    detail ++ "; use sys.set_int_max_str_digits() to increase the limit"

def malformationText : Malformation → Text
  | .startByte => "invalid start byte"
  | .continuationByte => "invalid continuation byte"
  | .truncated => "unexpected end of data"

def malformedMessage (m : Malformed) : Text :=
  let place : Text :=
    if m.count = 1 then
      "byte 0x" ++ hexPadded 2 m.first.toNat ++ " in position " ++ numeral m.position
    else
      "bytes in position " ++ numeral m.position ++ "-" ++ numeral (m.position + m.count - 1)
  "'utf-8' codec can't decode " ++ place ++ ": " ++ malformationText m.reason

def troubleText : FileTrouble → Text
  | .isDirectory => "[Errno 21] Is a directory: "
  | .alreadyExists => "[Errno 17] File exists: "
  | .notDirectory => "[Errno 20] Not a directory: "
  | .notFound => "[Errno 2] No such file or directory: "

def messageWith (w : Wording) : Fault → Text
  | unknownDialect v => "unsupported report dialect: " ++ v.shown
  | unknownTool v => "unsupported lint tool: " ++ v.shown
  | unknownStage v =>
    "unknown processor " ++ v.shown ++
      " (known: collapse-whitespace, semicolon-append, strip-comments, trim-lines)"
  | stageNamesRequired => "a list of processor names is required"
  | stageListRequired => "a processor list is required"
  | resourceRequired => "a resource is required"
  | textRequired => "input text is required"
  | groupsRequired => "raw lint groups are required"
  | adapterRequired => "a diagnostic adapter is required"
  | reportRequired none => "a DiagnosticReport is required"
  | reportRequired (some kind) => "a DiagnosticReport is required, got " ++ kind
  | notStage i v => "stage #" ++ numeral i ++ " is not a processor: " ++ v.shown
  | unknownSuffix path => "cannot infer resource type for " ++ path.quoted
  | unknownItemFields tool names =>
    "unknown canonical fields for " ++ tool ++ ": " ++ (Value.list (names.map .text)).shown
  | payloadMalformed why place =>
    "lint payload is not valid JSON: " ++ why.message ++ ": " ++ place.message
  | payloadShape => "lint payload must be a mapping or a list of file entries"
  | entryNotObject i => "lint payload entry #" ++ numeral i ++ " is not an object"
  | entryUnnamed i => "lint payload entry #" ++ numeral i ++ " names no resource"
  | recordsNotList path => "records for " ++ path.quoted ++ " must be a list"
  | recordNotObject path v => "record for " ++ path.quoted ++ " is not an object: " ++ v.shown
  | recordInvalid type path ps =>
    "invalid " ++ type.title ++ " record for " ++ path.quoted ++ ": " ++ w.problems type ps
  | pathInvalid path _ => "invalid resource path " ++ path.shown
  | patternInvalid source why =>
    "invalid pattern " ++ source.quoted ++ ": " ++ why.message source
  | settingsMissing path => "configuration file not found: " ++ path
  | settingsMalformed path => "invalid TOML in " ++ path ++ ": " ++ w.syntaxFault
  | settingsInvalid path ps =>
    "invalid configuration in " ++ path ++ ": " ++ w.problems .settings ps
  | adaptation path i _ =>
    "Problem while adapting lint item (resource=" ++ path.shown ++ ", item=" ++ numeral i ++ ")"
  | stage i name uri why =>
    let reason : Text := match why with
      | .raised (other kind []) => kind
      | .raised cause => messageWith w cause
      | .gave kind => "returned " ++ kind ++ " instead of text"
      | .stated reason => reason
    "Stage #" ++ numeral i ++ " (" ++ name ++ ") failed while processing " ++ uri ++ ": " ++ reason
  | invalid type ps => w.problems type ps
  | numeralTooLong digits => limitMessage (": value has " ++ numeral digits ++ " digits")
  | integerTooLong => limitMessage []
  | numeralUnreadable t =>
    "invalid literal for int() with base 10: " ++ t.quoted.take 200
  | notInteger part v => part ++ " must be an integer, got " ++ v.shown
  | noSuchPart => "no such part"
  | undecodable m => malformedMessage m
  | patternRefused source why => why.message source
  | replacementRefused source why => why.message source
  | unopenedTag tag position =>
    "closing tag '" ++ tag ++ "' at position " ++ numeral position ++
      " doesn't match any open tag"
  | nothingToClose position =>
    "closing tag '[/]' at position " ++ numeral position ++ " has nothing to close"
  | file trouble path => troubleText trouble ++ path.quoted
  | nulInPath => "embedded null byte"
  | other _ message => message

/-- Is the fault one of the inputs or settings of a job, or of a step of it? A command tells the
user about such a fault; any other ends the program. -/
def isExpected : Fault → Bool
  | invalid .. | numeralTooLong _ | integerTooLong | numeralUnreadable _ | notInteger ..
  | noSuchPart | undecodable _ | patternRefused .. | replacementRefused .. | unopenedTag ..
  | nothingToClose _ | file .. | nulInPath | other .. => false
  | _ => true

def quoting (v : Value) (f : Fault) : Fault :=
  if v.exceedsDigitLimit then integerTooLong else f

end Fault

end WebLint
