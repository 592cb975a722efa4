import BoundQuery.Text.Quoted
import BoundQuery.Value

/-!
Why a query could not be built or run. An error is a cause, which fixes its code and its message,
and a context that says what was being done.
-/

set_option autoImplicit false

namespace BoundQuery

inductive ErrorCode where
  | recordNotFound
  | notUnique
  | invalidIdentifier
  | invalidArgument
  | invalidOperator
  | bindingMismatch
  | connectionFailed
  | connectionTimeout
  | queryTimeout
  | sqlSyntax
  | databaseError
  | serializationError
  | deserializationError
  | invalidConfiguration
  | invalidCacheOptions
  | internal
deriving DecidableEq

namespace ErrorCode

/-- Thousands tell the area: queries, connections, execution, data, configuration, internal. -/
def number : ErrorCode → Nat
  | recordNotFound => 1001
  | notUnique => 1002
  | invalidIdentifier => 1003
  | invalidArgument => 1004
  | invalidOperator => 1005
  | bindingMismatch => 1006
  | connectionFailed => 3001
  | connectionTimeout => 3003
  | queryTimeout => 5001
  | sqlSyntax => 5002
  | databaseError => 5005
  | serializationError => 6002
  | deserializationError => 6003
  | invalidConfiguration => 7001
  | invalidCacheOptions => 7004
  | internal => 9001

def all : List ErrorCode :=
  [recordNotFound, notUnique, invalidIdentifier, invalidArgument, invalidOperator, bindingMismatch,
    connectionFailed, connectionTimeout, queryTimeout, sqlSyntax, databaseError,
    serializationError, deserializationError, invalidConfiguration, invalidCacheOptions, internal]

def ofNumber? (number : Nat) : Option ErrorCode :=
  all.find? (fun code => code.number == number)

def text (code : ErrorCode) : String :=
  "Q" ++ toString code.number

def description : ErrorCode → String
  | recordNotFound => "Record not found"
  | notUnique => "Multiple records found"
  | invalidIdentifier => "Invalid identifier"
  | invalidArgument => "Invalid argument"
  | invalidOperator => "Invalid operator"
  | bindingMismatch => "Placeholder and binding count mismatch"
  | connectionFailed => "Database connection failed"
  | connectionTimeout => "Connection timeout"
  | queryTimeout => "Query timeout"
  | sqlSyntax => "SQL syntax error"
  | databaseError => "Database error"
  | serializationError => "Serialization error"
  | deserializationError => "Deserialization error"
  | invalidConfiguration => "Invalid configuration"
  | invalidCacheOptions => "Invalid cache options"
  | internal => "Internal error"

end ErrorCode

inductive Cause where
  | recordNotFound (table : String)
  | notUnique (table : String)
  | invalidIdentifier (kind name : String)
  | invalidArgument (field reason : String)
  | invalidOperator (operator : String)
  | bindingMismatch (placeholders bindings : Nat)
  | invalidCacheOptions (reason : String)
  | invalidConfiguration (reason : String)
  | connectionFailed (reason : String)
  | timedOut (milliseconds : Nat)
  | sqlSyntax (reason : String)
  | database (reason : String)
  | serialization (reason : String)
  | deserialization (reason : String)
  | internal (reason : String)
  | other (code : ErrorCode) (message : String)

def Cause.code : Cause → ErrorCode
  | .recordNotFound _ => .recordNotFound
  | .notUnique _ => .notUnique
  | .invalidIdentifier _ _ => .invalidIdentifier
  | .invalidArgument _ _ => .invalidArgument
  | .invalidOperator _ => .invalidOperator
  | .bindingMismatch _ _ => .bindingMismatch
  | .invalidCacheOptions _ => .invalidCacheOptions
  | .invalidConfiguration _ => .invalidConfiguration
  | .connectionFailed _ => .connectionFailed
  | .timedOut _ => .queryTimeout
  | .sqlSyntax _ => .sqlSyntax
  | .database _ => .databaseError
  | .serialization _ => .serializationError
  | .deserialization _ => .deserializationError
  | .internal _ => .internal
  | .other code _ => code

def Cause.message : Cause → String
  | .recordNotFound table => "No " ++ table ++ " record found matching the query"
  | .notUnique table => "Expected exactly one " ++ table ++ " record but found multiple"
  | .invalidIdentifier kind name => "Invalid " ++ kind ++ " name: " ++ Text.quoted name
  | .invalidArgument field reason => "Invalid argument for " ++ field ++ ": " ++ reason
  | .invalidOperator operator => "Unsupported comparison operator: " ++ Text.quoted operator
  | .bindingMismatch placeholders bindings =>
      "Raw SQL has " ++ toString placeholders ++ " placeholder(s) but " ++ toString bindings ++
        " binding(s) were supplied"
  | .invalidCacheOptions reason => reason
  | .invalidConfiguration reason => reason
  | .connectionFailed reason => "Connection error: " ++ reason
  | .timedOut milliseconds => "Query timed out after " ++ toString milliseconds ++ "ms"
  | .sqlSyntax reason => "SQL syntax error: " ++ reason
  | .database reason => reason
  | .serialization reason => "Serialization error: " ++ reason
  | .deserialization reason => "Deserialization error: " ++ reason
  | .internal reason => "Internal error: " ++ reason
  | .other _ message => message

structure ErrorContext where
  operation : Option String := none
  table : Option String := none
  field : Option String := none
  sql : Option String := none
  bindings : Option (List Value) := none
  suggestions : List String := []
  help : Option String := none

/-- The source is the text of the fault below, where there was one. -/
structure QueryError where
  cause : Cause
  context : ErrorContext := {}
  source : Option String := none

namespace QueryError

def code (error : QueryError) : ErrorCode :=
  error.cause.code

def message (error : QueryError) : String :=
  error.cause.message

def text (error : QueryError) : String :=
  "[" ++ error.code.text ++ "] " ++ error.message

def during (error : QueryError) (operation : String) : QueryError :=
  { error with context := { error.context with operation := some operation } }

def suggesting (error : QueryError) (suggestion : String) : QueryError :=
  { error with
    context := { error.context with suggestions := error.context.suggestions ++ [suggestion] } }

def withHelp (error : QueryError) (help : String) : QueryError :=
  { error with context := { error.context with help := some help } }

def onTable (error : QueryError) (table : String) : QueryError :=
  { error with context := { error.context with table := some table } }

def onField (error : QueryError) (field : String) : QueryError :=
  { error with context := { error.context with field := some field } }

def withSql (error : QueryError) (sql : String) : QueryError :=
  { error with context := { error.context with sql := some sql } }

def withBindings (error : QueryError) (bindings : List Value) : QueryError :=
  { error with context := { error.context with bindings := some bindings } }

def withSource (error : QueryError) (source : String) : QueryError :=
  { error with source := some source }

/-- Records the statement that failed, unless the error already names one. -/
def attachStatement (error : QueryError) (sql : String) (bindings : List Value) : QueryError :=
  { error with
    context :=
      { error.context with
        sql := some (error.context.sql.getD sql)
        bindings := some (error.context.bindings.getD bindings) } }

def notFound (table : String) : QueryError :=
  (QueryError.mk (.recordNotFound table) {} none).onTable table
    |>.suggesting "Use first() instead to get None instead of an error"

def notUnique (table : String) : QueryError :=
  (QueryError.mk (.notUnique table) {} none).onTable table
    |>.suggesting "Add more specific filters to narrow down to a single record"

def invalidIdentifier (kind name : String) : QueryError :=
  (QueryError.mk (.invalidIdentifier kind name) {} none).onField name
    |>.withHelp
      "Identifiers may contain letters, digits and underscores, optionally qualified with '.'"

def invalidArgument (field reason : String) : QueryError :=
  (QueryError.mk (.invalidArgument field reason) {} none).onField field

def invalidOperator (operator : String) : QueryError :=
  (QueryError.mk (.invalidOperator operator) {} none).suggesting
    "Use one of =, !=, <>, <, <=, >, >=, LIKE, NOT LIKE, ILIKE"

def bindingMismatch (placeholders bindings : Nat) : QueryError :=
  (QueryError.mk (.bindingMismatch placeholders bindings) {} none).withHelp
    "Use one '?' per bound value in raw fragments"

def invalidCacheOptions (reason : String) : QueryError :=
  { cause := .invalidCacheOptions reason }

def invalidConfiguration (reason : String) : QueryError :=
  { cause := .invalidConfiguration reason }

def connection (reason : String) : QueryError :=
  (QueryError.mk (.connectionFailed reason) {} none).suggesting
    "Check that the database server is running"

def timedOut (milliseconds : Nat) : QueryError :=
  { cause := .timedOut milliseconds }

def sqlSyntax (reason sql : String) : QueryError :=
  (QueryError.mk (.sqlSyntax reason) {} none).withSql sql

def database (reason : String) : QueryError :=
  { cause := .database reason }

def serialization (reason : String) : QueryError :=
  { cause := .serialization reason }

def deserialization (reason : String) : QueryError :=
  { cause := .deserialization reason }

def internal (reason : String) : QueryError :=
  { cause := .internal reason }

def other (code : ErrorCode) (message : String) : QueryError :=
  { cause := .other code message }

def ofJsonFault (fault : String) : QueryError :=
  (serialization fault).withSource fault

/-- Raised locally, before anything is sent. -/
def isValidation (error : QueryError) : Bool :=
  [.invalidIdentifier, .invalidArgument, .invalidOperator, .bindingMismatch,
    .invalidCacheOptions].contains error.code

def isNotFound (error : QueryError) : Bool :=
  error.code == .recordNotFound

def isNotUnique (error : QueryError) : Bool :=
  error.code == .notUnique

def isDatabaseError (error : QueryError) : Bool :=
  [.databaseError, .sqlSyntax, .queryTimeout].contains error.code

def isConnectionError (error : QueryError) : Bool :=
  [.connectionFailed, .connectionTimeout].contains error.code

def isRetryable (error : QueryError) : Bool :=
  [.connectionFailed, .connectionTimeout, .queryTimeout].contains error.code

end QueryError

/-! ### Results in sequence -/

theorem ok_of_toOption {Result : Type} {source : Except QueryError Result} {result : Result}
    (reached : source.toOption = some result) : source = .ok result := by
  cases source with
  | error error => cases reached
  | ok own =>
      cases reached
      rfl

theorem ok_of_isOk {Item : Type} {result : Except QueryError Item}
    (accepted : result.isOk) : ∃ item, result = .ok item := by
  cases result with
  | error error => cases accepted
  | ok item => exact ⟨item, rfl⟩

theorem exists_of_bind_ok {Item Result : Type} {source : Except QueryError Item}
    {next : Item → Except QueryError Result} {result : Result}
    (reached : source >>= next = .ok result) :
    ∃ item, source = .ok item ∧ next item = .ok result := by
  cases source with
  | error error => cases reached
  | ok item => exact ⟨item, rfl, reached⟩

theorem exists_of_map_ok {Item Result : Type} {source : Except QueryError Item}
    {change : Item → Result} {result : Result} (reached : source.map change = .ok result) :
    ∃ item, source = .ok item ∧ change item = result := by
  cases source with
  | error error => cases reached
  | ok item =>
      cases reached
      exact ⟨item, rfl, rfl⟩

theorem exists_of_toOption_map {Item Result : Type} {source : Except QueryError Item}
    {change : Item → Result} {result : Result}
    (reached : source.toOption.map change = some result) :
    ∃ item, source = .ok item ∧ change item = result := by
  obtain ⟨item, kept, same⟩ := Option.map_eq_some_iff.mp reached
  exact ⟨item, ok_of_toOption kept, same⟩

/-- Two results that look the same are one refusal, or two items that look the same. -/
theorem outcomes_of_map_eq {Left Right Result : Type} {left : Except QueryError Left}
    {right : Except QueryError Right} {first : Left → Result} {second : Right → Result}
    (alike : left.map first = right.map second) :
    (∃ error, left = .error error ∧ right = .error error) ∨
      ∃ own other, left = .ok own ∧ right = .ok other ∧ first own = second other := by
  cases left with
  | error error =>
      cases right with
      | error refusal =>
          cases alike
          exact .inl ⟨error, rfl, rfl⟩
      | ok other => cases alike
  | ok own =>
      cases right with
      | error refusal => cases alike
      | ok other => exact .inr ⟨own, other, rfl, rfl, Except.ok.inj alike⟩

end BoundQuery
