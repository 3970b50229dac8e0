import TypoSearch.Value.Display

/-! Causes of failure and their wording. -/
namespace TypoSearch

inductive Fault where
  | logic (argument : String) (given : Value)
  | logicWord (given : Value)
  | budget (given : Value)
  | length (given : Value)
  | tooLarge
  | noLength (kind : String)
  | notIterable (kind : String)
  | notText (kind : String)
  | noMethod (kind method : String)
  | unhashable (kind : String)
  | unreadableNumber (text : String)
  | unreadableInt (base : Nat) (text : String)
  | tooManyDigits (digits most : Nat)
  | unwritable
  | emptyNumber
  | truthWord (word : String)
  | year (given : Nat)
  | momentPart (part range : String)
  | monthDay
  | zoneOffset (seconds : Int)
  | codePoint (code : Nat)
  | notNumber (kind : String)
  | columnName (given : Value)
  | dialect (given : Value) (known : List String)
  | functionName (given : String)
  | scorer (given : Value)
  | measure (given : Value) (known : List String)
  | format (given : Value)
  | entryKind (place : Nat)
  | entryLength (place parts : Nat)
  | missingSetting (setting : String)
  | settingKind (setting kind : String)
  | settingChoice (setting : String) (choices : List String)
  | settingRange (setting range : String)
  | settingEmpty (setting : String)
  | settingsRoot
  | settingsText
  | unknownTable (table : Value)
  | unknownColumns (table : String) (columns : List Value)
  | limit
  | levelName (layout : String)
  | fileExists (path : String)
  | notDirectory (path : String)
  | nullByte
  | noFunction (name : String)
  | noTable (name : String)
  | nameTaken (kind name : String)
  | reservedName (name : String)
  | repeatedColumn (name : String)
  | cellCount (table : String) (columns supplied : Nat)
  | integerRange
  | statementLength
  | nullCharacter
  | tooDeep (most : Nat)
  | closed
  | notDatabase
  | openFailed
  deriving Repr

namespace Fault

def shortened (s : String) : String := String.ofList (s.toList.take 200)

def isWordSized (code : Nat) : Bool := code < 1 <<< 31

def shows : Fault → List Value
  | logic _ given | logicWord given | budget given | length given | columnName given => [given]
  | dialect given _ | scorer given | measure given _ | format given | unknownTable given => [given]
  | unknownColumns _ columns => columns
  | _ => []

def isWritable (f : Fault) : Bool := f.shows.all Value.isWritable

/-- What becomes of a fault when its message is made. -/
def raised (f : Fault) : Fault := if f.isWritable then f else unwritable

def raise {α : Type} (f : Fault) : Except Fault α := .error f.raised

def message : Fault → String
  | logic argument given => "Invalid " ++ argument ++ ": " ++ given.shown ++ ". Use 'AND' or 'OR'."
  | logicWord given => given.shown ++ " is not a valid MatchLogic"
  | budget given => "max_typos must be a non-negative integer, got " ++ given.shown
  | length given => "length must be a non-negative integer, got " ++ given.shown
  | tooLarge => "int too large to convert to float"
  | noLength kind => "object of type '" ++ kind ++ "' has no len()"
  | notIterable kind => "'" ++ kind ++ "' object is not iterable"
  | notText kind => "expected string or bytes-like object, got '" ++ kind ++ "'"
  | noMethod kind method => "'" ++ kind ++ "' object has no attribute '" ++ method ++ "'"
  | unhashable kind => "unhashable type: '" ++ kind ++ "'"
  | unreadableNumber text => "could not convert string to float: " ++ Text.quoted text
  | unreadableInt base text =>
    "invalid literal for int() with base " ++ toString base ++ ": " ++ shortened (Text.quoted text)
  | tooManyDigits digits most =>
    "Exceeds the limit (" ++ toString most ++ " digits) for integer string conversion: value has " ++
      toString digits ++ " digits; use sys.set_int_max_str_digits() to increase the limit"
  | unwritable =>
    "Exceeds the limit (" ++ toString Number.mostDigits ++ " digits) for integer string conversion; " ++
      "use sys.set_int_max_str_digits() to increase the limit"
  | emptyNumber => "string index out of range"
  | truthWord word => Text.quoted word
  | year given => "year " ++ toString given ++ " is out of range"
  | momentPart part range => part ++ " must be in " ++ range
  | monthDay => "day is out of range for month"
  | zoneOffset seconds =>
    "offset must be a timedelta strictly between -timedelta(hours=24) and timedelta(hours=24), not " ++
      Calendar.spanText seconds ++ "."
  | codePoint code =>
    if isWordSized code then "chr() arg not in range(0x110000)"
    else "Python int too large to convert to C int"
  | notNumber kind => "float() argument must be a string or a real number, not '" ++ kind ++ "'"
  | columnName given => "Column name must be a non-empty string, got " ++ given.shown
  | dialect given known => "Unsupported dialect: " ++ given.plain ++ ". Use one of " ++ shownTexts known
  | functionName given => "Invalid similarity function name: " ++ Text.quoted given
  | scorer given => "Unsupported scorer in config.matching.scorer: " ++ given.plain
  | measure given known => "Unsupported rapidfuzz method: " ++ given.plain ++ ". Use one of " ++ shownTexts known
  | format given => "Unsupported output format: " ++ given.plain
  | entryKind place =>
    "cannot convert dictionary update sequence element #" ++ toString place ++ " to a sequence"
  | entryLength place parts =>
    "dictionary update sequence element #" ++ toString place ++ " has length " ++ toString parts ++
      "; 2 is required"
  | missingSetting setting => "Missing required config: " ++ setting
  | settingKind setting kind => setting ++ " must be " ++ kind
  | settingChoice setting choices => setting ++ " must be one of " ++ shownTexts choices
  | settingRange setting range => setting ++ " must be " ++ range
  | settingEmpty setting => setting ++ " must not be empty"
  | settingsRoot => "Config root must be a mapping/object"
  | settingsText => "malformed settings text"
  | unknownTable table => "Unknown table: " ++ table.plain
  | unknownColumns table columns => "Unknown column(s) for " ++ table ++ ": " ++ (Value.list columns).shown
  | limit => "limit must be positive"
  | levelName layout => "Unknown level: " ++ Text.quoted layout
  | fileExists path => "[Errno 17] File exists: " ++ Text.quoted path
  | notDirectory path => "[Errno 20] Not a directory: " ++ Text.quoted path
  | nullByte => "embedded null byte"
  | noFunction name => "no such function: " ++ name
  | noTable name => "no such table: " ++ name
  | nameTaken kind name => kind ++ " " ++ name ++ " already exists"
  | reservedName name => "object name reserved for internal use: " ++ name
  | repeatedColumn name => "duplicate column name: " ++ name
  | cellCount table columns supplied =>
    "table " ++ table ++ " has " ++ toString columns ++ " columns but " ++ toString supplied ++
      " values were supplied"
  | integerRange => "Python int too large to convert to SQLite INTEGER"
  | statementLength => "query string is too large"
  | nullCharacter => "the query contains a null character"
  | tooDeep most => "Expression tree is too large (maximum depth " ++ toString most ++ ")"
  | closed => "Cannot operate on a closed database."
  | notDatabase => "file is not a database"
  | openFailed => "unable to open database file"

end Fault
end TypoSearch
