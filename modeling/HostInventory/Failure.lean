import HostInventory.Text.Decoding
import HostInventory.Text.Quoted
import HostInventory.Text.Words

/-!
The ways an operation can fail, each a cause with its data, and the wording of each in one place.
What stands between a path and what it names is one of them.
-/
namespace HostInventory

inductive Obstacle where
  | missing
  | forbidden
  | notDirectory
  | isDirectory
  /-- A component, or the whole path, is longer than can be. -/
  | nameTooLong
  | tooManyLinks
  deriving DecidableEq, Repr

namespace Obstacle

def number : Obstacle → Nat
  | missing => 2
  | forbidden => 13
  | notDirectory => 20
  | isDirectory => 21
  | nameTooLong => 36
  | tooManyLinks => 40

def message : Obstacle → String
  | missing => "No such file or directory"
  | forbidden => "Permission denied"
  | notDirectory => "Not a directory"
  | isDirectory => "Is a directory"
  | nameTooLong => "File name too long"
  | tooManyLinks => "Too many levels of symbolic links"

end Obstacle

inductive Trouble where
  | system
  | permission
  | missing
  | statistics
  | runtime
  | value
  | kernel
  /-- An iteration is asked for more than it has. -/
  | exhausted
  deriving DecidableEq, Repr

/-- Troubles of the operating system, which the inventory treats as "not available". -/
def Trouble.isSystem : Trouble → Bool
  | .system | .permission | .missing | .statistics => true
  | .runtime | .value | .kernel | .exhausted => false

inductive Failure where
  | reported (trouble : Trouble) (message : String)
  | chainClosed
  | tooManyDigits (digits : Nat)
  | unwritable
  | notANumber
  | infinite
  | sizeTooLarge
  | timeOutOfRange
  | yearOutOfRange
  | yearUnwritable
  | missingColumn
  | notText (kind : String)
  | countOutOfRange
  | shell (fault : Text.ShellFault)
  | undecodable (place : Text.Undecodable)
  | embeddedNul
  | illegalVariableName
  | unknownLevel (text : String)
  | levelKind (shown : String)
  | blocked (obstacle : Obstacle) (path : String)
  | notJoinable (kind : String)
  /-- A field of a log event has the name of something else that is given with the event. -/
  | fieldTwice (method field : String)
  | noMethod (method : String)
  | rowExists (key : String)
  | rowMissing (key : String)
  | cellMissing (key column : String)
  | waitTooLong
  deriving DecidableEq, Repr

namespace Failure

def isSystem : Failure → Bool
  | .reported trouble _ => trouble.isSystem
  | .chainClosed | .yearOutOfRange | .blocked _ _ => true
  | _ => false

def isValue : Failure → Bool
  | .reported .value _ => true
  | .tooManyDigits _ | .unwritable | .notANumber | .shell _ | .undecodable _ | .embeddedNul
  | .illegalVariableName | .unknownLevel _ => true
  | _ => false

def isKernel : Failure → Bool
  | .reported .kernel _ => true
  | _ => false

def isRuntime : Failure → Bool
  | .reported .runtime _ => true
  | _ => false

def isExhausted : Failure → Bool
  | .reported .exhausted _ => true
  | _ => false

/-- A failure of opening or closing as the user of a scope meets it. The end of an iteration would
pass for the end of the scope, so it comes out as a fault of the run. -/
def outOfScope (failure : Failure) : Failure :=
  if failure.isExhausted then .reported .runtime "generator raised StopIteration" else failure

/-- The place of undecodable bytes: one byte by its value, several by their positions. -/
def showPlace (place : Text.Undecodable) : String :=
  if place.length = 1 then
    "byte 0x" ++ String.ofList (Text.hexDigits 2 place.byte.toNat) ++
      " in position " ++ toString place.position
  else
    "bytes in position " ++ toString place.position ++ "-" ++
      toString (place.position + place.length - 1)

def showUtf8Fault : Text.Utf8Fault → String
  | .badStart => "invalid start byte"
  | .badContinuation => "invalid continuation byte"
  | .cutShort => "unexpected end of data"

def message : Failure → String
  | .reported _ text => text
  | .chainClosed => "kstat chain is closed"
  | .tooManyDigits digits =>
    "Exceeds the limit (4300 digits) for integer string conversion: value has " ++
      toString digits ++ " digits; use sys.set_int_max_str_digits() to increase the limit"
  | .unwritable =>
    "Exceeds the limit (4300 digits) for integer string conversion; " ++
      "use sys.set_int_max_str_digits() to increase the limit"
  | .notANumber => "cannot convert float NaN to integer"
  | .infinite => "cannot convert float infinity to integer"
  | .sizeTooLarge => "integer division result too large for a float"
  | .timeOutOfRange => "timestamp out of range for platform time_t"
  | .yearOutOfRange => "[Errno 75] Value too large for defined data type"
  | .yearUnwritable => "signed integer is greater than maximum"
  | .missingColumn => "list index out of range"
  | .notText kind => "'" ++ kind ++ "' object has no attribute 'strip'"
  | .countOutOfRange => "Python int too large to convert to C ssize_t"
  | .shell .openQuotation => "No closing quotation"
  | .shell .openEscape => "No escaped character"
  | .undecodable place =>
    "'utf-8' codec can't decode " ++ showPlace place ++ ": " ++ showUtf8Fault place.fault
  | .embeddedNul => "embedded null byte"
  | .illegalVariableName => "illegal environment variable name"
  | .unknownLevel text => "Unknown level: " ++ Text.quoted text
  | .levelKind shown => "Level not an integer or a valid string: " ++ shown
  | .blocked obstacle path =>
    "[Errno " ++ toString obstacle.number ++ "] " ++ obstacle.message ++ ": " ++ Text.quoted path
  | .notJoinable kind => "can only concatenate str (not \"" ++ kind ++ "\") to str"
  | .fieldTwice method field =>
    "BoundLogger." ++ method ++ "() got multiple values for argument '" ++ field ++ "'"
  | .noMethod method => "'BoundLogger' object has no attribute " ++ Text.quoted method
  | .rowExists key => "The row key RowKey(value=" ++ Text.quoted key ++ ") already exists."
  | .rowMissing key => "Row key " ++ Text.quoted key ++ " is not valid."
  | .cellMissing key column =>
    "No cell exists for row_key=RowKey(value=" ++ Text.quoted key ++
      "), column_key=ColumnKey(value=" ++ Text.quoted column ++ ")."
  | .waitTooLong => "timestamp too large to convert to C _PyTime_t"

theorem outOfScope_of_not_exhausted {failure : Failure} (other : failure.isExhausted = false) :
    failure.outOfScope = failure := by
  rw [outOfScope, other]
  rfl

@[simp] theorem isSystem_outOfScope (failure : Failure) :
    failure.outOfScope.isSystem = failure.isSystem := by
  cases exhausted : failure.isExhausted with
  | false => rw [outOfScope_of_not_exhausted exhausted]
  | true =>
    unfold isExhausted at exhausted
    split at exhausted
    · rfl
    · cases exhausted

end Failure

end HostInventory
