import QueryFence.Json.Display

/-!
Faults: what ends an operation that was given data it cannot work with. Mistakes of authors and
failures of a search service have types of their own; a fault is what none of these covers.
-/

namespace QueryFence

/-- What can go wrong with the files of a folder. -/
inductive StorageError
  | missing
  | exists
  | notFolder
  | isFolder
  /-- Links lead in a circle. -/
  | circularLink
  | nameTooLong
  /-- A path holds the character that ends paths. -/
  | nullCharacter
deriving DecidableEq, Repr

def StorageError.message : StorageError → Text
  | .missing => "No such file or directory"
  | .exists => "File exists"
  | .notFolder => "Not a directory"
  | .isFolder => "Is a directory"
  | .circularLink => "Too many levels of symbolic links"
  | .nameTooLong => "File name too long"
  | .nullCharacter => "embedded null byte"

/-- The number under which the file system reports an error; zero where it is not asked. -/
def StorageError.number : StorageError → Nat
  | .missing => 2
  | .exists => 17
  | .notFolder => 20
  | .isFolder => 21
  | .circularLink => 40
  | .nameTooLong => 36
  | .nullCharacter => 0

inductive Fault
  /-- A value of this kind has no such attribute or method. -/
  | noAttribute (kind : Json.Kind) (name : Text)
  /-- An operation does not take an operand of the kind it got. -/
  | wrongKind (message : Text)
  /-- An object has no member of this name. -/
  | missingKey (name : Text)
  /-- An object has no member numbered zero. -/
  | missingFirst
  /-- The first element was asked of an empty text or list. -/
  | outOfRange
  /-- A text or a number is not one that an operation takes. -/
  | badValue (message : Text)
  /-- A number is too large. -/
  | overflow
  /-- The pattern of comment lines is no pattern. -/
  | badPattern
  | storage (error : StorageError)
deriving DecidableEq, Repr

def Fault.message : Fault → Text
  | .noAttribute kind name =>
    "'" ++ kind.name ++ "' object has no attribute '" ++ name ++ "'"
  | .wrongKind message => message
  | .missingKey name => Text.quoted name
  | .missingFirst => "0"
  | .outOfRange => "string index out of range"
  | .badValue message => message
  | .overflow => "number out of range"
  | .badPattern => "bad pattern"
  | .storage e => e.message

end QueryFence
