import PacketSmith.MessageId
import PacketSmith.Text.Quoted

/-!
# Faults

Everything that can go wrong between a registry file and the files written from it, by cause, and
the one wording of each. `Fault.isReported` says which causes the command line reports in one line;
the others end a run.
-/

namespace PacketSmith

/-- Why a text is no JSON document. -/
inductive JsonProblem where
  | expectingValue
  | expectingName
  | expectingColon
  | expectingComma
  | extraData
  | unterminatedString
  | controlCharacter
  | badEscape
  | badUnicodeEscape
  | byteOrderMark
  | longNumber
  | loneHalf
deriving DecidableEq, Repr

/-- The wording of a problem, without its place. -/
def JsonProblem.text : JsonProblem → String
  | expectingValue => "Expecting value"
  | expectingName => "Expecting property name enclosed in double quotes"
  | expectingColon => "Expecting ':' delimiter"
  | expectingComma => "Expecting ',' delimiter"
  | extraData => "Extra data"
  | unterminatedString => "Unterminated string starting at"
  | controlCharacter => "Invalid control character at"
  | badEscape => "Invalid \\escape"
  | badUnicodeEscape => "Invalid \\uXXXX escape"
  | byteOrderMark => "Unexpected UTF-8 BOM (decode using utf-8-sig)"
  | longNumber => "A whole number has too many digits"
  | loneHalf => "Half of a surrogate pair at"

/-- Why an operation on files fails. -/
inductive FileProblem where
  | notFound
  | alreadyExists
  | notDirectory
  | isDirectory
  | nameTooLong
deriving DecidableEq, Repr

/-- The number and the wording of a problem, as the system gives them. -/
def FileProblem.text : FileProblem → String
  | notFound => "[Errno 2] No such file or directory"
  | alreadyExists => "[Errno 17] File exists"
  | notDirectory => "[Errno 20] Not a directory"
  | isDirectory => "[Errno 21] Is a directory"
  | nameTooLong => "[Errno 36] File name too long"

/-- What can go wrong. -/
inductive Fault where
  /-- The text is no type name. -/
  | malformedType (text : String)
  /-- A type with parameters is none of the known containers. -/
  | unsupportedGeneric (type : String)
  /-- A container has the wrong number of parameters. -/
  | wrongArity (head : String) (takes got : Nat)
  /-- A type is neither primitive nor a message. -/
  | unknownType (type : String)
  /-- A type lacks a parameter that its kind needs. -/
  | missingParameter
  /-- The fault arose in a field of a message. -/
  | inField (message field : String) (cause : Fault)
  /-- Two messages have one name. -/
  | duplicateName (name : String)
  /-- Two messages have one id. -/
  | duplicateId (id : MessageId)
  /-- No message has the id. -/
  | unknownId (id : MessageId)
  /-- A field holds the type of its own message. -/
  | ownType (message field : String) (id : MessageId)
  /-- Messages hold each other in turn. -/
  | cycle (ids : List MessageId)
  /-- No target has the name. -/
  | unknownLanguage (name : String)
  /-- The table of serializers takes no more entries. -/
  | tableSealed (language : String)
  /-- The table of serializers lacks a tag. -/
  | noSerializer (language tag : String)
  /-- The table of serializers lacks the tag of a type. -/
  | unmappedType (language tag type : String)
  /-- The table of serializers lacks tags that every table must have. -/
  | incompleteTable (language : String) (tags : List String)
  /-- A field's tag has no initial value. -/
  | noInitialValue (tag : String)
  /-- The serializer of a tag is left unspecified. -/
  | unspecifiedSerializer
  /-- A template was given a wrong number of values. -/
  | valueCount (template : String) (takes got : Nat)
  /-- No template has the name. -/
  | templateNotFound (template : String)
  /-- The slots of a template are not the declared ones. -/
  | slotMismatch (template : String) (undeclared unused : List String)
  /-- The generator has no output directory yet. -/
  | notInitialized (target : String)
  /-- The text is no JSON document; the place is a line, a column and an offset. -/
  | notJson (problem : JsonProblem) (line column offset : Nat)
  /-- A record lacks a key. -/
  | missingKey (key : String)
  /-- A value that should be a record is none. -/
  | notRecord
  /-- A value that should be a list cannot be gone through. -/
  | notList
  /-- A value that should be a number cannot be turned into one. -/
  | notNumeric
  /-- A text that should denote a whole number denotes none, or has too many digits. -/
  | notNumeral
  /-- A number that should be whole is infinite. -/
  | infiniteNumber
  /-- A text that is needed is null. -/
  | nullText
  /-- A name whose upper case is needed is null. -/
  | nullName
  /-- A brace in a pattern has no partner, or numbered and unnumbered places are mixed. -/
  | malformedPattern
  /-- A pattern asks for more values than there are. -/
  | patternPlace
  /-- A pattern asks for a value by a name. -/
  | patternName (name : String)
  /-- An operation on files failed; the place is shown as given here. -/
  | file (problem : FileProblem) (place : String)
  /-- A path has a NUL character. -/
  | nulInPath
  /-- The bytes of a file are no text. -/
  | notText
  /-- A tag in a marked text closes nothing, or its parameters cannot be read. -/
  | malformedMarkup
deriving DecidableEq, Inhabited, Repr

namespace Fault

/-- A list of names, or a dash if there are none. -/
def listOrDash (names : List String) : String :=
  if names.isEmpty then "-" else ", ".intercalate names

/-- The wording of a fault. -/
def message : Fault → String
  | malformedType text => "Malformed type name '" ++ text ++ "'"
  | unsupportedGeneric type => "Unsupported generic type " ++ type
  | wrongArity head takes got =>
    head ++ " takes " ++ toString takes ++ " type parameter(s), got " ++ toString got
  | unknownType type => "Unknown type " ++ type
  | missingParameter => "A type parameter is missing"
  | inField m f cause => m ++ "." ++ f ++ ": " ++ cause.message
  | duplicateName name => "Duplicate message name " ++ name
  | duplicateId id => "Duplicate protocol id " ++ id.text
  | unknownId id => "Unknown protocol id " ++ id.text
  | ownType m f id =>
    m ++ "." ++ f ++ " holds its own message type: " ++ id.text ++ " -> " ++ id.text
  | cycle ids => "Nested messages form a cycle: " ++ " -> ".intercalate (ids.map MessageId.text)
  | unknownLanguage name => "Unknown language: " ++ name
  | tableSealed language => language ++ " strategy table is read-only"
  | noSerializer language tag => language ++ " has no serializer for type '" ++ tag ++ "'"
  | unmappedType language tag type =>
    language ++ " has no serializer for type '" ++ tag ++ "' (unmapped type " ++ type ++ ")"
  | incompleteTable language tags =>
    language ++ " has no serializer for type(s): " ++ ", ".intercalate tags
  | noInitialValue tag => Text.quoted tag
  | unspecifiedSerializer => "The serializer is unspecified"
  | valueCount template takes got =>
    "Template " ++ template ++ " takes " ++ toString takes ++ " values, got " ++ toString got
  | templateNotFound template => "Template " ++ template ++ " not found"
  | slotMismatch template undeclared unused =>
    "Template " ++ template ++ " does not match its slots (undeclared: " ++ listOrDash undeclared ++
      "; unused: " ++ listOrDash unused ++ ")"
  | notInitialized target => target ++ " generator is not initialized"
  | notJson problem line column offset =>
    problem.text ++ ": line " ++ toString line ++ " column " ++ toString column ++ " (char " ++
      toString offset ++ ")"
  | missingKey key => Text.quoted key
  | notRecord => "A record was expected"
  | notList => "A list was expected"
  | notNumeric => "A number was expected"
  | notNumeral => "A whole number was expected"
  | infiniteNumber => "A finite number was expected"
  | nullText => "A text was expected"
  | nullName => "A name was expected"
  | malformedPattern => "The pattern is malformed"
  | patternPlace => "The pattern has too many places"
  | patternName name => Text.quoted name
  | file problem place => problem.text ++ ": " ++ place
  | nulInPath => "A path has a NUL character"
  | notText => "The file is no text"
  | malformedMarkup => "The markup is malformed"

/-- The command line reports the fault in one line and ends the run in order. -/
def isReported : Fault → Bool
  | malformedType .. | unsupportedGeneric .. | wrongArity .. | unknownType .. | inField ..
  | duplicateName .. | duplicateId .. | unknownId .. | ownType .. | cycle .. | unknownLanguage ..
  | tableSealed .. | noSerializer .. | unmappedType .. | incompleteTable .. | valueCount ..
  | templateNotFound .. | slotMismatch .. | notInitialized .. | file .. => true
  | _ => false

end Fault
end PacketSmith
