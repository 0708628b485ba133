import WideColumn.Component.Registry
import WideColumn.Config.Site
import WideColumn.Filter.Rejection
import WideColumn.Location.Reference
import WideColumn.Properties.Basic
import WideColumn.Record.Request

/-!
What can go wrong, by cause. Some faults are the service's own; the others come from its
collaborators or from the data, and reach the caller either as they are or as the cause of a fault
of the service.
-/
namespace WideColumn

inductive StoreAction
  | connect
  | close
  | put (rows : Nat) (table : String)
  | delete (row : Option Bytes) (table : String)
  | openScanner (table : String)
  | readScan (table : String)
  deriving DecidableEq, Repr

def shownBytes : Option Bytes → String
  | none => "None"
  | some b => String.ofList (Text.quotedBytes b)

def StoreAction.describe : StoreAction → String
  | connect => "Failed to connect to HBase"
  | close => "Failed to close HBase connection"
  | put rows table =>
    "Failed to put " ++ String.ofList (Text.natural rows) ++ " rows to " ++ table
  | delete row table => "Failed to delete row " ++ shownBytes row ++ " from " ++ table
  | openScanner table => "Failed to open scanner on " ++ table
  | readScan table => "Failed reading scan results from " ++ table

inductive SetupError
  | name (value : Value)
  | noDestination
  | noSource
  | unknownScheme (kind uri : String)
  | noTableName (uri : String)
  | noService
  deriving Inhabited

/-- A name that has no text is refused as well, with the reason why it has none. -/
def SetupError.message : SetupError → String
  | name value =>
    match value.shownText with
    | .ok text =>
      "Invalid name: " ++ text ++
        ". Must contain only alphanumeric and underscore with at least one alphabetic character"
    | .error e => e.message
  | noDestination => "Destination not specified in config"
  | noSource => "Source not specified in config"
  | unknownScheme kind uri => "Unknown " ++ kind ++ " type: " ++ uri
  | noTableName uri => "No table name in " ++ uri
  | noService => "Either client_service or hbase_properties must be specified in config"

/-- Anything that can go wrong. A collaborator's own fault has a kind and a message. -/
inductive Fault
  | collaborator (kind message : String)
  | number (error : NumberError)
  | encoding (error : EncodingError)
  | file (error : FileError)
  | location (error : LocationError)
  | label (error : Location.LabelError)
  | confFile (error : ConfFileError)
  | load (error : LoadError)
  | component (error : Component.LoadError)
  | setup (error : SetupError)
  | compareOp (symbol : String)
  | comparatorKind (name : String)
  | unknown (name : String)
  | mismatch (error : Mismatch)
  | negativeTimeout
  | noTable (row : Option Bytes)
  | invalidConfiguration (reason : String)
  | invalidFilter (expression : String) (rejection : Filter.Rejection)
  | namelessKind
  | notEnabled (service : String)
  | store (action : StoreAction) (cause : Fault)
  | handlerAborted (row : Option Bytes) (cause : Fault)
  deriving Inhabited

namespace Fault

def ofInteger (e : Text.IntegerError) : Fault := number (.text e)

def ofRecord : RecordError → Fault
  | .mismatch error => mismatch error
  | .encoding error => encoding error
  | .timestamp error => number error

def ofFilter (expression : String) : Filter.Failure → Fault
  | .rejected rejection => invalidFilter expression rejection
  | .number error => ofInteger error
  | .namelessKind => namelessKind

/-- The kinds of the service's own faults. A collaborator may raise these too. -/
def serviceKinds : List String :=
  ["HBaseServiceError", "ConfigurationInvalid", "InvalidFilterSyntax", "StoreIOError",
   "HandlerAborted", "ServiceNotEnabled"]

def fileKind : FileError → String
  | .missing _ => "FileNotFoundError"
  | .directory _ => "IsADirectoryError"
  | .notDirectory _ => "NotADirectoryError"
  | .nameTooLong _ => "OSError"
  | .alreadyThere _ => "FileExistsError"
  | .nullCharacter => "ValueError"

def documentKind : Xml.Error → String
  | .notWellFormed .. => "ParseError"
  | .encoding (.unknown _) | .encoding (.notText _) => "LookupError"
  | .encoding .wide => "ValueError"
  | .encoding (.strict ..) => "UnicodeError"
  | .encoding .notAscii => "UnicodeDecodeError"

def mismatchKind (e : Mismatch) : String :=
  match e with
  | .lacks .. => "AttributeError"
  | .sizeRange => "OverflowError"
  | _ => if e.isOfValue then "ValueError" else "TypeError"

def kind : Fault → String
  | collaborator kind _ => kind
  | number .infinite => "OverflowError"
  | number (.type _) => "TypeError"
  | number _ => "ValueError"
  | encoding .range => "struct.error"
  | encoding (.number _) | encoding (.json (.number _)) => "ValueError"
  | encoding _ => "TypeError"
  | file e | confFile (.file e) | load (.file e) => fileKind e
  | location (.name ..) | label _ => "UnicodeError"
  | location _ => "ValueError"
  | confFile (.document e) => documentKind e
  | confFile (.noText _) => "ValueError"
  | load .notUtf8 => "UnicodeDecodeError"
  | component (.noModulePart _) => "ValueError"
  | component (.noModule ..) => "ModuleNotFoundError"
  | component (.noMember ..) => "ImportError"
  | component (.noName _) => "AttributeError"
  | component (.notMade kind _) => kind
  | component _ => "TypeError"
  | mismatch e => mismatchKind e
  | setup _ => "ValueError"
  | compareOp _ | comparatorKind _ | noTable _ | negativeTimeout => "ValueError"
  | unknown _ => "KeyError"
  | namelessKind => "IndexError"
  | invalidConfiguration _ => "ConfigurationInvalid"
  | invalidFilter .. => "InvalidFilterSyntax"
  | notEnabled _ => "ServiceNotEnabled"
  | store .. => "StoreIOError"
  | handlerAborted .. => "HandlerAborted"

def isService : Fault → Bool
  | collaborator kind _ => serviceKinds.contains kind
  | invalidConfiguration _ | invalidFilter .. | notEnabled _ | store .. | handlerAborted .. => true
  | _ => false

def cause? : Fault → Option Fault
  | location e => e.cause?.map label
  | store _ cause | handlerAborted _ cause => some cause
  | _ => none

def confFileMessage : ConfFileError → String
  | .file e => e.message
  | .document e => e.message
  | .noText e => e.message

def loadMessage : LoadError → String
  | .file e => e.message
  | .notUtf8 => "not UTF-8"

def message : Fault → String
  | collaborator _ message => message
  | number error => error.message
  | encoding error => error.message
  | file error => error.message
  | location error => error.message
  | label error => error.message
  | confFile error => confFileMessage error
  | load error => loadMessage error
  | component error => error.message
  | setup error => error.message
  | compareOp symbol => "Unknown comparison operator: " ++ symbol
  | comparatorKind name =>
    String.ofList (Text.quoted name.toList) ++ " is not a valid ComparatorType"
  | unknown name => String.ofList (Text.quoted name.toList)
  | mismatch error => error.message
  | negativeTimeout => "'timeout' must be a non-negative number"
  | noTable row => "No table given for put of row " ++ shownBytes row
  | invalidConfiguration reason => reason
  | invalidFilter expression rejection =>
    "Invalid filter expression '" ++ expression ++ "': " ++ rejection.describe
  | namelessKind => "string index out of range"
  | notEnabled service => "HBaseClientService " ++ service ++ " is not enabled"
  | store action cause => action.describe ++ ": " ++ cause.message
  | handlerAborted row cause =>
    "Row handler failed on row " ++ shownBytes row ++ ": " ++ cause.message

end Fault
end WideColumn
