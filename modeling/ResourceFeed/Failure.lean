import ResourceFeed.Query.Operator
import ResourceFeed.Resource.FieldType
import ResourceFeed.Resource.State
import ResourceFeed.Value.Text

/-! # Failures

    Everything that can go wrong, as a cause.  The wording of a cause is given
    once, by `Failure.message`.
-/

namespace ResourceFeed

/-- Why a query is not put together properly. -/
inductive ShapeFault where
  | filterAfterProjection
  | projectionAfterProjection
  /-- The predicate is the element itself. -/
  | bareElement
  /-- The predicate builds a record. -/
  | recordInPredicate
  /-- An inclusion that names no member of the element; the text shows its selector. -/
  | includesNoMember (selector : String)
  | entityQueryProjects
  | projectionMissing

/-- Why an expression has no value. -/
inductive EvaluationFault where
  /-- The element is asked for where there is none. -/
  | unbound
  | noMember (name : String)
  | memberOfPlain (name : String) (type : ValueType)
  | incomparable (left right : ValueType)
  /-- The exact result is no integer of 64 bits. -/
  | integer (operator : Operator) (left right : Int64)
  | inapplicable (operator : Operator) (left right : ValueType)
  | notBoolean (operator : Operator) (type : ValueType)
  /-- A function of the host refused its arguments. -/
  | host (text : String)

/-- Why a kind does not lead to one type. -/
inductive AmbiguityFault where
  /-- More than one registration; the names of their types. -/
  | registeredOften (types : List String)
  | otherType (registered requested : String)

/-- Why a document cannot be used. -/
inductive DocumentFault where
  /-- Not a document at all, or not in the shape that was asked for. -/
  | malformed
  | notAnObject
  | resourcesNotAnArray
  | noResource
  | keyMissing

/-- Why settings cannot be used. -/
inductive SettingsFault where
  /-- The file does not spell settings. -/
  | malformed
  | emptyBaseUrl
  | baseUrlScheme
  | baseUrlQuery
  | zeroTimeout
  | zeroPageSize
  | zeroTokenCapacity

/-- A cause of failure. -/
inductive Failure where
  | invalidShape (fault : ShapeFault)
  | unsupportedOperator (name : String)
  | unsupportedMember (name : String)
  | unsupportedConstant (value : Value)
  | evaluation (fault : EvaluationFault)
  | unknownKind (kind : String)
  | ambiguousType (kind : String) (fault : AmbiguityFault)
  /-- A field cannot hold what the server sent for it. -/
  | format (field : String) (raw : Json) (expected : WireForm)
  /-- The server knows another version. -/
  | conflict (status : Nat) (body : String)
  | transport (status : Nat) (body : String)
  /-- The exchange did not take place. -/
  | unreachable (reason : String)
  | document (fault : DocumentFault)
  | settings (fault : SettingsFault)
  /-- The state of an entity rules an operation out; `keyless` if for want of a key. -/
  | invalidState (operation : Operation) (state : EntityState) (keyless : Bool)

/-! ## Wording -/

namespace ShapeFault

/-- The wording of the fault. -/
def message : ShapeFault → String
  | .filterAfterProjection => "filter applied after a projection"
  | .projectionAfterProjection => "projection applied after a projection"
  | .bareElement => "bare bound variable in predicate"
  | .recordInPredicate => "record construction in predicate"
  | .includesNoMember selector =>
    "include expression " ++ selector ++ " does not refer to a member on the entity"
  | .entityQueryProjects => "entity query carries a projection"
  | .projectionMissing => "projected query has no selector"

end ShapeFault

namespace EvaluationFault

/-- The wording of the fault. -/
def message : EvaluationFault → String
  | .unbound => "bound variable is not available"
  | .noMember name => "record has no member '" ++ name ++ "'"
  | .memberOfPlain name type => "cannot access member '" ++ name ++ "' on " ++ type.name ++ " value"
  | .incomparable left right => "cannot compare " ++ left.name ++ " with " ++ right.name
  | .integer operator left right =>
    "integer " ++ operator.name ++ " of " ++ toString left.toInt ++ " and " ++ toString right.toInt
      ++ " failed"
  | .inapplicable operator left right =>
    "cannot apply " ++ operator.name ++ " to " ++ left.name ++ " and " ++ right.name
  | .notBoolean operator type => operator.name ++ " expects boolean operands, got " ++ type.name
  | .host text => text

end EvaluationFault

namespace AmbiguityFault

/-- The wording of the fault. -/
def message : AmbiguityFault → String
  | .registeredOften types =>
    toString types.length ++ " registrations: " ++ String.intercalate ", " types
  | .otherType registered requested =>
    "registered as " ++ registered ++ ", requested as " ++ requested

end AmbiguityFault

namespace DocumentFault

/-- The wording of the fault. -/
def message : DocumentFault → String
  | .malformed => "malformed document"
  | .notAnObject => "expected a JSON object"
  | .resourcesNotAnArray => "$resources must be an array"
  | .noResource => "feed contains no resource"
  | .keyMissing => "insert response carries no resource key"

end DocumentFault

namespace SettingsFault

/-- The wording of the fault. -/
def message : SettingsFault → String
  | .malformed => "malformed settings"
  | .emptyBaseUrl => "Base URL cannot be empty"
  | .baseUrlScheme => "Base URL must start with http:// or https://"
  | .baseUrlQuery => "Base URL must not carry a query string"
  | .zeroTimeout => "Timeout must be greater than 0"
  | .zeroPageSize => "Page size must be greater than 0"
  | .zeroTokenCapacity => "Token cache capacity must be greater than 0"

end SettingsFault

namespace Failure

/-- The wording of a failure. -/
def message : Failure → String
  | .invalidShape fault => "Invalid query shape: " ++ fault.message
  | .unsupportedOperator name => "The binary operator '" ++ name ++ "' is not supported"
  | .unsupportedMember name => "The member '" ++ name ++ "' is not supported"
  | .unsupportedConstant value => "The constant '" ++ value.plainText ++ "' is not supported"
  | .evaluation fault => "Evaluation failed: " ++ fault.message
  | .unknownKind kind => "Unknown resource kind: " ++ kind
  | .ambiguousType kind fault =>
    "Ambiguous type for resource kind " ++ kind ++ ": " ++ fault.message
  | .format field raw expected =>
    "Format error in field '" ++ field ++ "': cannot convert " ++ raw.render ++ " to "
      ++ expected.name
  | .conflict status body => "Concurrency conflict (" ++ toString status ++ "): " ++ body
  | .transport status body => "Transport error (" ++ toString status ++ "): " ++ body
  | .unreachable reason => "Network error: " ++ reason
  | .document fault => "Serialization error: " ++ fault.message
  | .settings fault => "Invalid configuration: " ++ fault.message
  | .invalidState operation state keyless =>
    "Cannot " ++ operation.name ++ " an entity in state " ++ state.name
      ++ (if keyless then " without key" else "")

/-- Whether the failure means that the server knows another version. -/
def isConflict : Failure → Bool
  | .conflict .. => true
  | _ => false

/-- The failure of a change that the server answered with a status other than success. -/
def ofRefusedChange (status : Nat) (body : String) : Failure :=
  if status = 409 ∨ status = 412 then .conflict status body else .transport status body

end Failure

end ResourceFeed
