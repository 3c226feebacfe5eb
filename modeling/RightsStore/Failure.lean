import RightsStore.Database.Refusal
import RightsStore.Datum.Product
import RightsStore.ErrorKind
import RightsStore.Record.Description
import RightsStore.Schema.Dump

namespace RightsStore

inductive Unbindable
  | dateRange
  | notMoment (kind : String)
  | notBytes (kind : String)
  deriving DecidableEq, Repr

inductive Failure
  | undescribed (f : DescriptionFault)
  | notOpen (t : Table)
  | refused (r : Refusal)
  | nullCharacter
  | severalStatements
  | bindingCount (used given : Nat)
  | unbindable (u : Unbindable)
  | integerRange
  | unsupported (position : Nat) (kind : String)
  | dateRange
  | noUser
  | noOffset (f : ProductFault)
  | badMoment (text : List Char) (f : MomentFault)
  | momentNotText
  | keyText
  | keyFraction
  | negativeKey
  | keyTooLong
  | keyMemory
  | notFound (t : Table)
  | badRow (n : Int)
  | aborted (message : String)
  | undumpable (u : Schema.Undumpable)
  | unknownName (name : String)
  deriving DecidableEq, Repr

def dateRangeMessage : String := "date value out of range"

def noMomentMessage (kind : String) : String := s!"'{kind}' object has no attribute 'tzinfo'"

def Unbindable.message : Unbindable → String
  | .dateRange => dateRangeMessage
  | .notMoment kind => noMomentMessage kind
  | .notBytes kind => s!"memoryview: a bytes-like object is required, not '{kind}'"

namespace Failure

def message : Failure → String
  | .undescribed f => f.message
  | .notOpen .content => "index"
  | .notOpen .license => "licenses"
  | .refused r => r.message
  | .nullCharacter => "the query contains a null character"
  | .severalStatements => "You can only execute one statement at a time."
  | .bindingCount used given => "Incorrect number of bindings supplied. The current statement " ++
    s!"uses {used}, and there are {given} supplied."
  | .unbindable u => u.message
  | .integerRange => "Python int too large to convert to SQLite INTEGER"
  | .unsupported position kind =>
    s!"Error binding parameter {position}: type '{kind}' is not supported"
  | .dateRange => dateRangeMessage
  | .noUser => "'NoneType' object has no attribute 'id'"
  | .noOffset f => f.message
  | .badMoment text f => f.message text
  | .momentNotText => "fromisoformat: argument must be str"
  | .keyText => "string argument without an encoding"
  | .keyFraction => "cannot convert 'float' object to bytes"
  | .negativeKey => "negative count"
  | .keyTooLong => "byte string is too large"
  | .keyMemory => ""
  | .notFound t => (ErrorKind.ofTable t).silent
  | .badRow n => s!"bad row {n}"
  | .aborted message => message
  | .undumpable u => u.message
  | .unknownName name => .ofList (Text.quoted name.toList)

def ofExecuted : Executed α → Except Failure α
  | .ok a => .ok a
  | .error r => .error (.refused r)

end Failure

end RightsStore
