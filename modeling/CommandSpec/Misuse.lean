import CommandSpec.Datum
import CommandSpec.Text.Clipped

/-!
# Misuse — calls that cannot be answered

A fault (`Fault`) says what is wrong with a specification or with the tokens of a user.  A
**misuse** says what is wrong with a call: a value of the wrong kind, an attribute that does not
exist, a type that cannot be derived from.  Each has the kind of error it is reported as, and a
message.
-/

namespace CommandSpec

/-- What is wrong with a call. -/
inductive Misuse where
  -- data of the wrong kind
  | notText (call : String)
  | entryNotText
  | tokensNotIterable
  | tokensAreText
  | tokenNotText (kind : String)
  | converterNotCallable
  | notATopic (kind : String)
  | notAHelpTarget
  | notACode
  | noSuchCode (value : Datum)
  | missingKey (key : Datum)
  | levelNotANumber (level : Datum)
  | unknownLevel (level : String)
  | notIterable (kind : String)
  | notIndexable (kind : String)
  | notHashable (kind : String)
  | notCallable (kind : String)
  | notComparable (kind : String)
  | notAnIterator (kind : String)
  | noIteratorGiven (kind : String)
  | notAContainer (kind : String)
  | notWithinText (kind : String)
  | notAClass
  | notSearchable (kind : String)
  | noLength (kind : String)
  | notAppended (kind : String)
  | notExtended (kind : String)
  | noPair (count : Nat)
  | notUnpacked (kind : String)
  | unexpectedOption (call name : String)
  | notShownAsText (kind : String)
  | emptyList
  | emptyText
  | emptyTuple
  | streamEnded
  -- command types
  | mixedBases
  | sealedBase (name : String)
  | repeatedBase (name : String)
  | unorderedBases (names : List String)
  | conflictingBases
  | takenCell (cell : String)
  | secondRecordCell
  | secondReferenceCell
  | nullInTypeName
  | typeNameNotText (kind : String)
  | notAClosureCell (kind : String)
  | noTypeAttribute (type attr : String)
  | notAParameterName (name : String)
  | repeatedParameter (name : String)
  -- values
  | setNotConstructible (type : String)
  | takesNoArguments (type : String)
  | missingArgument (name : String)
  | tooManyArguments
  | repeatedArgument (name : String)
  | unexpectedArgument (name : String)
  | readOnly (type : String)
  | noAttribute (type attr : String)
  | noCell (type attr : String)
  | sharedAttribute (type attr : String)
  | fixedReference (type : String)
  | notARecord (kind : String)
  | noSetter (type attr : String)
  | noDeleter (type attr : String)
  | noSetterOf (type : String)
  | noDeleterOf (type : String)
  | emptyCell (cell : String)
  | fixedAttribute (type attr : String)
  | fixedPart
  | fixedItem
  | keptItem
  | kindNotAClass (kind : String)
  | kindKept
  | typePartNotText (type attr kind : String)
  | basesNotATuple (type kind : String)
  | typePartKept (type attr : String)
  -- paths
  | headNotAnId
  | restNotAPath
  | noSubcommands (command : String)
  | notAMember (command type : String)
  -- errors that are made
  | missingParts (kind : String) (names : List String)
  | tooManyParts (kind : String) (takes given named : Nat)
  | namedParts (kind : String) (names : List String)
  | noNamedParts (kind : String)
  | itemNotText (place : Nat) (kind : String)
  -- naming
  | subjectNotCallable
  | nameNotText
  | notRenamable
  | decoratorNameNotText
  | decoratedNotCallable
  | renameCount (n : Nat)
  | absentTypeSealed
  deriving BEq

namespace Misuse

/-- The kind of error that a misuse is reported as. -/
def kind : Misuse → String
  | noSuchCode _ | unknownLevel _ | noPair _ | takenCell _ | nullInTypeName | notAParameterName _
  | repeatedParameter _ | noSubcommands _ | notAMember _ _ => "ValueError"
  | missingKey _ => "KeyError"
  | emptyList | emptyText | emptyTuple => "IndexError"
  | streamEnded => "StopIteration"
  | noTypeAttribute _ _ | readOnly _ | noAttribute _ _ | noCell _ _ | sharedAttribute _ _
  | fixedReference _ | noSetter _ _ | noDeleter _ _ | noSetterOf _ | noDeleterOf _ | emptyCell _
  | fixedAttribute _ _ | fixedPart | fixedItem | keptItem => "AttributeError"
  | _ => "TypeError"

/-- A name between quotes, as it is, cut to a number of bytes. -/
def named (bytes : Nat) (name : String) : String := "'" ++ Text.clipped bytes name ++ "'"

/-- A name between quotes, as it is. -/
def namedWhole (name : String) : String := "'" ++ name ++ "'"

/-- A number of things, with the ending of their name where they are not one. -/
def counted (n : Nat) (name : String) : String :=
  toString n ++ " " ++ name ++ if n = 1 then "" else "s"

/-- Names between quotes, with `and` before the last. -/
def enumerated (names : List String) : String :=
  match names.map namedWhole with
  | [] => ""
  | [a] => a
  | [a, b] => a ++ " and " ++ b
  | many => ", ".intercalate many.dropLast ++ ", and " ++ many.getLast?.getD ""

/-- The name of what makes the errors of a kind. -/
def makerOf (kind : String) : String := kind ++ ".__init__"

/-- What a misuse is reported with. -/
def message : Misuse → String
  | notText call => call ++ "() argument must be a string"
  | entryNotText => "trie entry names must be strings"
  | tokensNotIterable => "Tokens() argument must be an iterable of strings"
  | tokensAreText => "Tokens() argument must be an iterable of strings, not a string"
  | tokenNotText kind => "command tokens must be strings, not " ++ kind
  | converterNotCallable => "Argument() type must be callable"
  | notAppended kind =>
    "can only concatenate str (not \"" ++ Text.clipped 100 kind ++ "\") to str"
  | notExtended kind =>
    "unsupported operand type(s) for +=: '" ++ Text.clipped 100 kind ++ "' and 'str'"
  | notATopic kind => "fold() argument must be a help topic, not " ++ kind
  | notAHelpTarget => "help() argument must be a command path, a command id or tokens"
  | notACode => "getdoc() argument must be a fault-code"
  | noSuchCode value => value.shown ++ " is not a valid FaultCode"
  | missingKey key => key.shown
  | levelNotANumber level => "Level not an integer or a valid string: " ++ level.shown
  | unknownLevel level => "Unknown level: " ++ Text.quoted level
  | notIterable kind => named 200 kind ++ " object is not iterable"
  | notIndexable kind => named 200 kind ++ " object is not subscriptable"
  | notHashable kind => "unhashable type: " ++ named 200 kind
  | notCallable kind => named 200 kind ++ " object is not callable"
  | notComparable kind =>
    "'>=' not supported between instances of 'float' and " ++ named 100 kind
  | notAnIterator kind => named 200 kind ++ " object is not an iterator"
  | noIteratorGiven kind => "iter() returned non-iterator of type " ++ named 100 kind
  | notAContainer kind => "argument of type " ++ named 200 kind ++ " is not iterable"
  | notWithinText kind =>
    "'in <string>' requires string as left operand, not " ++ Text.clipped 100 kind
  | notAClass => "issubclass() arg 1 must be a class"
  | notSearchable kind => "expected string or bytes-like object, got " ++ named 200 kind
  | noLength kind => "object of type " ++ named 200 kind ++ " has no len()"
  | noPair count =>
    if count < 2 then "not enough values to unpack (expected 2, got " ++ toString count ++ ")"
    else "too many values to unpack (expected 2)"
  | notUnpacked kind => "cannot unpack non-iterable " ++ Text.clipped 200 kind ++ " object"
  | unexpectedOption call name =>
    call ++ "() got an unexpected keyword argument " ++ namedWhole name
  | notShownAsText kind => "__str__ returned non-string (type " ++ Text.clipped 200 kind ++ ")"
  | emptyList => "list index out of range"
  | emptyText => "string index out of range"
  | emptyTuple => "tuple index out of range"
  | streamEnded => ""
  | mixedBases => "a command type must derive from exactly one of Command or CommandSet"
  | sealedBase name => "type " ++ Text.quoted name ++ " is not an acceptable base type"
  | repeatedBase name => "duplicate base class " ++ name
  | unorderedBases names =>
    "Cannot create a consistent method resolution\norder (MRO) for bases " ++ ", ".intercalate names
  | conflictingBases => "multiple bases have instance lay-out conflict"
  | takenCell cell => Text.quoted cell ++ " in __slots__ conflicts with class variable"
  | secondRecordCell => "__dict__ slot disallowed: we already got one"
  | secondReferenceCell =>
    "__weakref__ slot disallowed: either we already got one, or __itemsize__ != 0"
  | nullInTypeName => "type name must not contain null characters"
  | typeNameNotText kind => "type __qualname__ must be a str, not " ++ kind
  | notAClosureCell kind =>
    "__classcell__ must be a nonlocal cell, not <class " ++ namedWhole kind ++ ">"
  | noTypeAttribute type attr =>
    "type object " ++ named 50 type ++ " has no attribute " ++ namedWhole attr
  | notAParameterName name => Text.quoted name ++ " is not a valid parameter name"
  | repeatedParameter name => "duplicate parameter name: " ++ Text.quoted name
  | setNotConstructible type =>
    "command set " ++ type ++ " cannot be instantiated, parse one of its commands"
  | takesNoArguments type => Text.clipped 200 type ++ "() takes no arguments"
  | missingArgument name => "missing a required argument: " ++ Text.quoted name
  | tooManyArguments => "too many positional arguments"
  | repeatedArgument name => "multiple values for argument " ++ Text.quoted name
  | unexpectedArgument name => "got an unexpected keyword argument " ++ Text.quoted name
  | readOnly type => type ++ " values are read-only"
  | noAttribute type attr =>
    named 50 type ++ " object has no attribute " ++ namedWhole attr
  | noCell type attr =>
    named 100 type ++ " object has no attribute " ++ namedWhole attr
  | sharedAttribute type attr =>
    named 50 type ++ " object attribute " ++ namedWhole attr ++ " is read-only"
  | fixedReference type =>
    "attribute '__weakref__' of " ++ named 100 type ++ " objects is not writable"
  | notARecord kind => "__dict__ must be set to a dictionary, not a " ++ named 200 kind
  | noSetter type attr =>
    "property " ++ Text.quoted attr ++ " of " ++ Text.quoted type ++ " object has no setter"
  | noDeleter type attr =>
    "property " ++ Text.quoted attr ++ " of " ++ Text.quoted type ++ " object has no deleter"
  | noSetterOf type => "property of " ++ Text.quoted type ++ " object has no setter"
  | noDeleterOf type => "property of " ++ Text.quoted type ++ " object has no deleter"
  | emptyCell cell => cell
  | fixedAttribute type attr =>
    "attribute " ++ namedWhole attr ++ " of " ++ named 100 type ++ " objects is not writable"
  | fixedPart => "readonly attribute"
  | fixedItem => "can't set attribute"
  | keptItem => "can't delete attribute"
  | kindNotAClass kind => "__class__ must be set to a class, not " ++ named 200 kind ++ " object"
  | kindKept => "can't delete __class__ attribute"
  | typePartNotText type attr kind =>
    "can only assign string to " ++ type ++ "." ++ attr ++ ", not " ++ namedWhole kind
  | basesNotATuple type kind => "can only assign tuple to " ++ type ++ ".__bases__, not " ++ kind
  | typePartKept type attr =>
    "cannot delete " ++ namedWhole attr ++ " attribute of immutable type " ++ namedWhole type
  | headNotAnId => "CommandPath() id must be a command id"
  | restNotAPath => "CommandPath() rest must be a command path or None"
  | noSubcommands command => "command " ++ Text.quoted command ++ " has no subcommands"
  | notAMember command type => "command " ++ Text.quoted command ++ " does not belong to " ++ type
  | missingParts kind names =>
    makerOf kind ++ "() missing " ++ counted names.length "required positional argument" ++ ": " ++
      enumerated names
  | tooManyParts kind takes given named =>
    makerOf kind ++ "() takes " ++ counted takes "positional argument" ++ " but " ++
      (if named = 0 then toString given
      else counted given "positional argument" ++ " (and " ++
        counted named "keyword-only argument" ++ ")") ++ " were given"
  | namedParts kind names =>
    makerOf kind ++ "() got some positional-only arguments passed as keyword arguments: " ++
      namedWhole (", ".intercalate names)
  | noNamedParts kind => Text.clipped 200 kind ++ "() takes no keyword arguments"
  | itemNotText place kind =>
    "sequence item " ++ toString place ++ ": expected str instance, " ++ Text.clipped 80 kind ++
      " found"
  | subjectNotCallable => "rename() first argument must be callable"
  | nameNotText => "rename() second argument must be a string"
  | notRenamable => "rename() first argument must be a updatable callable"
  | decoratorNameNotText => "@rename() argument must be a string"
  | decoratedNotCallable => "@rename() must be applied to a callable"
  | renameCount n => "rename takes 1 to 2 arguments but " ++ toString n ++ " were given"
  | absentTypeSealed => "type 'UnsetType' is not an acceptable base type"

end Misuse

/-! ## Data as what is asked for -/

/-- The text that a call asks for. -/
def Datum.asText (call : String) : Datum → Except Misuse String
  | .text s => .ok s
  | _ => .error (.notText call)

/-- The text of a datum that is asked for an attribute of texts. -/
def Datum.textWith (attr : String) : Datum → Except Misuse String
  | .text s => .ok s
  | d => .error (.noAttribute d.kindName attr)

/-- The text of a datum that may be missing, and that is asked for an attribute of texts if it is
not. -/
def Datum.textIfAny (attr : String) : Datum → Except Misuse (Option String)
  | .null => .ok none
  | d => some <$> d.textWith attr

/-- The text of a datum that is searched for a pattern. -/
def Datum.searched : Datum → Except Misuse String
  | .text s => .ok s
  | d => .error (.notSearchable d.kindName)

/-- The items of a text, each a text of one character. -/
def Datum.characters (s : String) : List Datum := s.toList.map fun c => .text (.ofList [c])

/-- The items of a datum: those of a list, the characters of a text, or the keys of a record. -/
def Datum.items : Datum → Except Misuse (List Datum)
  | .list ds => .ok ds
  | .text s => .ok (characters s)
  | .record fields => .ok (fields.map fun f => .text f.1)
  | d => .error (.notIterable d.kindName)

/-- The texts that data are, or the first that is none and cannot be joined to the others. -/
def Datum.joinable (ds : List Datum) : Except Misuse (List String) :=
  match ds.zipIdx.find? fun d => !isText d.1 with
  | some (d, place) => .error (.itemNotText place d.kindName)
  | none => .ok (ds.map plain)
where
  /-- Whether a datum is a text. -/
  isText : Datum → Bool
    | .text _ => true
    | _ => false

/-- The two items of a datum that has just two. -/
def Datum.pair (d : Datum) : Except Misuse (Datum × Datum) :=
  match d.items with
  | .ok [a, b] => .ok (a, b)
  | .ok ds => .error (.noPair ds.length)
  | .error _ => .error (.notUnpacked d.kindName)

/-- Whether each given option is among those that a call knows, or the first that is not. -/
def Misuse.optionFault? (call : String) (known given : List String) : Option Misuse :=
  (given.find? fun name => !known.contains name).map (.unexpectedOption call)

end CommandSpec
