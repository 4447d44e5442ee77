import Extremum.Model.Basic
import Extremum.Value.Issue

/-!
# Faults

Everything that can go wrong, one constructor per cause, with its message. Code from outside, such
as a solver, may fail with a fault of its own (`Fault.foreign`).
-/

namespace Extremum

/-- The kinds of failure of code from outside that are told apart. -/
inductive ForeignKind where
  | value
  | linearAlgebra
  | arithmetic
  | zeroDivision
  | overflow
  | floatingPoint
  | key
  /-- Any other kind, by its name. -/
  | other (name : String)
deriving DecidableEq, Repr

/-- Why an operation failed. -/
inductive Fault where
  /-- A variable is not known. -/
  | unknownVariable (v : VariableId)
  /-- A constraint is not known. -/
  | unknownConstraint (c : ConstraintId)
  /-- A position, or the index of an expression, is out of range. -/
  | unknownPosition (p : Int)
  /-- Constraints of this function and region cannot be added. -/
  | unsupportedConstraint (function region : Kind)
  /-- A region may only be replaced by one of the same kind. -/
  | regionKindChange (old new : Kind)
  /-- A value, as it is written, stands for no objective sense. -/
  | unknownSense (literal : String)
  /-- A constraint is not on just one variable. -/
  | notSingle
  /-- Something that is not a function was asked for its variables. -/
  | noVariables (object : Kind)
  /-- A list of variables names one of them twice. -/
  | duplicateVariables
  /-- Something that is not a function cannot be made an expression. -/
  | unsupportedFunction (object : Kind)
  /-- The region has no bounds, or no category. -/
  | unsupportedRegion (region : Kind)
  /-- An expression holds something that is not an expression. -/
  | unsupportedNode (object : Kind)
  /-- An expression still refers to variables of a model. -/
  | unresolvedReference
  /-- No elementary function has this name. -/
  | unsupportedCall (name : String)
  /-- An elementary function was given the wrong number of arguments. -/
  | callArity (name : String) (expected given : Nat)
  /-- A vector was read outside its ends. -/
  | outOfBounds (index : Int) (size : Nat)
  /-- A vector was read at something that cannot be an index. -/
  | unusableIndex
  /-- Lower and upper bounds differ in number. -/
  | unevenBounds (lower upper : Nat)
  /-- Grids of shapes that do not fit were combined entry by entry. -/
  | unevenShapes (shapes : List (List Nat))
  /-- Bounds of variables are of shapes that do not fit. -/
  | unevenRange
  /-- A grid of flags has more dimensions than the grid that it selects from. -/
  | tooManyIndices (dimensions indices : Nat)
  /-- A grid of flags differs in a dimension from the grid that it selects from. -/
  | unevenMask (axis size maskSize : Nat)
  /-- A grid of several entries was taken as a truth value. -/
  | ambiguousTruth
  /-- A grid without entries was taken as a truth value. -/
  | emptyTruth
  /-- The greatest entry of an empty list was asked for. -/
  | greatestOfNothing
  /-- A sum of finite terms became infinite on the way. -/
  | sumOverflow
  /-- Infinities of both signs were summed. -/
  | sumConflict
  /-- The evaluator has no objective. -/
  | noObjective
  /-- The evaluator has no constraint with this index. -/
  | noConstraint (index : Nat)
  /-- A snapshot holds no value of the variable. -/
  | noValue (v : VariableId)
  /-- A solve is already in progress. -/
  | solveInProgress
  /-- The solver failed to run. -/
  | solverFailure (message : String)
  /-- A raw value has issues. -/
  | invalid (issues : List Issue)
  /-- Nested lists do not form an array: the shape up to the first irregular level. -/
  | ragged (shape : List Nat)
  /-- Lists are nested in more levels than an array can have dimensions. -/
  | tooDeep (limit : Nat)
  /-- A text in an array is no numeral. -/
  | unreadableFloat (s : String)
  /-- A text in an array is no integer numeral. -/
  | unreadableInt (s : String)
  /-- An integer numeral in an array has too many digits. -/
  | overlongInt (limit digits : Nat)
  /-- An integer is too large for a float. -/
  | outsideFloat
  /-- A value of this type stands where a number is expected. -/
  | notReal (type : String)
  /-- A value of this type stands where an integer is expected. -/
  | notIntegral (type : String)
  /-- An integer does not fit into a byte. -/
  | outsideByte (n : Int)
  /-- An integer does not fit into a machine word. -/
  | outsideWord
  /-- NaN was converted to an integer. -/
  | nanAsInt
  /-- An infinity was converted to an integer. -/
  | infinityAsInt
  /-- No plugins of this type exist. -/
  | unknownPluginType (type : String)
  /-- A class of the wrong base was registered. -/
  | wrongPluginType (type name : String)
  /-- A plugin name is taken. -/
  | duplicatePlugin (name : String)
  /-- The default method needs the name of a plugin. -/
  | bareDefault
  /-- No plugin provides the method. -/
  | methodNotFound (method : String)
  /-- The schema has no options for the method. -/
  | methodNotInSchema (method : String)
  /-- An option is one of several values, but there are none. -/
  | emptyChoice
  /-- An option is of one of several types, but there are none. -/
  | emptyUnion
  /-- The numerical backend has no such method. -/
  | unsupportedMethod (method : String)
  /-- The problem has a feature that the method lacks. -/
  | featureUnsupported (method feature : String)
  /-- The problem lacks a feature that the method requires. -/
  | featureRequired (method feature : String)
  /-- The method requires finite bounds on all variables. -/
  | finiteBoundsRequired (method : String)
  /-- Values were asked for that have never been computed. -/
  | nothingCached
  /-- A result lacks a field. -/
  | missingField (name : String)
  /-- Code from outside failed. -/
  | foreign (kind : ForeignKind) (message : String)

namespace Fault

/-- A shape as it stands in messages, with a separator between its dimensions. -/
def shapeText (separator : String) : List Nat → String
  | [n] => "(" ++ toString n ++ ",)"
  | shape => "(" ++ separator.intercalate (shape.map toString) ++ ")"

/-- The start of a text in quotes, as much of it as a message holds. -/
def excerpt (s : String) : String := String.ofList ((Text.quoted s).toList.take 200)

def message : Fault → String
  | unknownVariable v => "Invalid index: " ++ v.text
  | unknownConstraint c => "Invalid index: " ++ toString c.value
  | unknownPosition p => "Invalid index: " ++ toString p
  | unsupportedConstraint f r => "Unsupported constraint: " ++ f.name ++ "-in-" ++ r.name
  | regionKindChange old new =>
    "Cannot change the set type of a constraint from " ++ old.name ++ " to " ++ new.name
  | unknownSense literal => literal ++ " is not a valid ObjectiveSense"
  | notSingle => ""
  | noVariables object => Text.quoted object.name ++ " object has no attribute 'variables'"
  | duplicateVariables => "Duplicate variable indices"
  | unsupportedFunction object => "Unsupported function type: " ++ object.name
  | unsupportedRegion region => "Unsupported set type: " ++ region.name
  | unsupportedNode object => "Unsupported expression node: " ++ object.name
  | unresolvedReference => "Cannot compile an expression with model variable references"
  | unsupportedCall name => "Unsupported function: " ++ name
  | callArity name expected given =>
    "Function " ++ name ++ " expects " ++ toString expected ++ " argument(s), got " ++
      toString given
  | outOfBounds index size =>
    "index " ++ toString index ++ " is out of bounds for axis 0 with size " ++ toString size
  | unevenBounds lower upper =>
    "zip() argument 2 is " ++ (if lower < upper then "longer" else "shorter") ++
      " than argument 1"
  | unusableIndex =>
    "only integers, slices (`:`), ellipsis (`...`), numpy.newaxis (`None`) and integer or " ++
      "boolean arrays are valid indices"
  | unevenShapes shapes =>
    "operands could not be broadcast together with shapes " ++
      String.join (shapes.map (shapeText "," · ++ " "))
  | unevenRange => "`lb`, `ub`, and `keep_feasible` must be broadcastable."
  | tooManyIndices dimensions indices =>
    "too many indices for array: array is " ++ toString dimensions ++ "-dimensional, but " ++
      toString indices ++ " were indexed"
  | unevenMask axis size maskSize =>
    "boolean index did not match indexed array along axis " ++ toString axis ++
      "; size of axis is " ++ toString size ++ " but size of corresponding boolean axis is " ++
      toString maskSize
  | ambiguousTruth =>
    "The truth value of an array with more than one element is ambiguous. Use a.any() or a.all()"
  | emptyTruth =>
    "The truth value of an empty array is ambiguous. Use `array.size > 0` to check that an " ++
      "array is not empty."
  | greatestOfNothing =>
    "zero-size array to reduction operation maximum which has no identity"
  | sumOverflow => "intermediate overflow in fsum"
  | sumConflict => "-inf + inf in fsum"
  | noObjective => "no objective"
  | noConstraint index => "no constraint " ++ toString index
  | noValue v => v.text
  | solveInProgress => "optimize() was called while a solve is in progress"
  | solverFailure message => message
  | invalid _ => ""
  | ragged shape =>
    "setting an array element with a sequence. The requested array has an inhomogeneous shape " ++
      "after " ++ toString shape.length ++ " dimensions. The detected shape was " ++
      shapeText ", " shape ++ " + inhomogeneous part."
  | tooDeep limit =>
    "setting an array element with a sequence. The requested array would exceed the maximum " ++
      "number of dimension of " ++ toString limit ++ "."
  | outsideFloat => "int too large to convert to float"
  | unreadableFloat s => "could not convert string to float: " ++ Text.quoted s
  | unreadableInt s => "invalid literal for int() with base 10: " ++ excerpt s
  | overlongInt limit digits =>
    "Exceeds the limit (" ++ toString limit ++ " digits) for integer string conversion: value " ++
      "has " ++ toString digits ++ " digits; use sys.set_int_max_str_digits() to increase the limit"
  | notReal type =>
    "float() argument must be a string or a real number, not " ++ Text.quoted type
  | notIntegral type =>
    "int() argument must be a string, a bytes-like object or a real number, not " ++
      Text.quoted type
  | outsideByte n => "Python integer " ++ toString n ++ " out of bounds for uint8"
  | outsideWord => "Python int too large to convert to C long"
  | nanAsInt => "cannot convert float NaN to integer"
  | infinityAsInt => "cannot convert float infinity to integer"
  | unknownPluginType type => Text.quoted type
  | wrongPluginType type name =>
    "Incorrect type for " ++ type ++ " plugin `" ++ name ++ "`: <class>"
  | duplicatePlugin name => "Duplicate plugin name: " ++ name
  | bareDefault => "Cannot specify 'default' method without a plugin name"
  | methodNotFound method => "Method not found: " ++ method
  | methodNotInSchema method => "Method `" ++ method ++ "` not found in schema."
  | emptyChoice => "literal \"expected\" cannot be empty, obj=typing.Literal[()]"
  | emptyUnion => "Cannot take a Union of no types."
  | unsupportedMethod method => "SciPy solver algorithm " ++ method ++ " is not supported"
  | featureUnsupported method feature => "solver " ++ method ++ " does not support " ++ feature
  | featureRequired method feature => "solver " ++ method ++ " requires " ++ feature
  | finiteBoundsRequired method =>
    "solver " ++ method ++ " requires finite bounds on all variables"
  | nothingCached => ""
  | missingField name => name
  | foreign .key message => Text.quoted message
  | foreign _ message => message

/--
The fault is of the numerical kind: an unusable value, an arithmetic failure or a failure of linear
algebra.
-/
def isNumerical : Fault → Bool
  | duplicateVariables | unknownSense _ | unsupportedCall _ | callArity _ _ _ => true
  | sumOverflow | sumConflict | unevenBounds _ _ | unevenShapes _ | unevenRange => true
  | ambiguousTruth | emptyTruth | greatestOfNothing => true
  | ragged _ | tooDeep _ | unreadableFloat _ | unreadableInt _ | overlongInt _ _ => true
  | outsideFloat | outsideByte _ | outsideWord => true
  | nanAsInt | infinityAsInt | invalid _ => true
  | duplicatePlugin _ | bareDefault | methodNotFound _ | methodNotInSchema _ => true
  | foreign kind _ =>
    match kind with
    | .value | .linearAlgebra | .arithmetic | .zeroDivision | .overflow | .floatingPoint => true
    | .key | .other _ => false
  | _ => false

end Fault

end Extremum
