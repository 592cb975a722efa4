import BoundQuery.Builder.Filter
import BoundQuery.Builder.Write
import BoundQuery.Cache.Options
import BoundQuery.Statement.Compile

/-!
A builder accumulates one statement, call by call. Calls are values themselves, so a whole program
of them can be run, and a group of conditions is a program inside one call.
-/

set_option autoImplicit false

namespace BoundQuery

structure Builder where
  profile : Profile
  /-- Whether there is a cache to read through. -/
  cacheable : Bool := false
  clauses : Clauses := {}
  directive : CacheDirective := {}
  encrypted : List String := []

namespace Builder

def statement (builder : Builder) : Except QueryError Statement :=
  builder.clauses.compile builder.profile

/-- Asks for caching; options are checked even where there is no cache. -/
def cached (builder : Builder) (options : CacheOptions) : Except QueryError Builder := do
  options.check
  if builder.cacheable then
    pure { builder with directive := ⟨true, options.ttl, options.key, options.tags⟩ }
  else pure builder

def uncached (builder : Builder) : Builder :=
  { builder with directive := {} }

def markEncrypted (builder : Builder) (fields : List String) : Builder :=
  { builder with
    encrypted := fields.foldl
      (fun marked field => if marked.contains field then marked else marked ++ [field])
      builder.encrypted }

end Builder

inductive Call where
  | readFrom (table : String)
  | readFromAs (table aliasName : String)
  | select (columns : List String)
  | selectColumns (text : String)
  | selectAliased (pairs : List (String × String))
  | addSelect (columns : List String)
  | distinct
  | join (kind : JoinKind) (table first operator second : String)
  | crossJoin (table : String)
  | joinRaw (kind : JoinKind) (table condition : String)
  | groupBy (columns : List String)
  | having (column operator : String) (value : Value)
  | havingRaw (sql : String) (values : List Value)
  | orderBy (column : String) (direction : Direction)
  | orderByRaw (expression : String)
  | limit (number : Int)
  | offset (number : Int)
  | compare (combinator : Combinator) (column operator : String) (value : Value)
  | membership (combinator : Combinator) (negated : Bool) (column : String) (values : List Value)
  | between (combinator : Combinator) (negated : Bool) (column : String) (low high : Value)
  | nullTest (combinator : Combinator) (negated : Bool) (column : String)
  | whereRaw (combinator : Combinator) (sql : String) (values : List Value)
  | group (combinator : Combinator) (calls : List Call)
  | whereDate (column operator : String) (date : DateInput)
  | whereYear (column operator : String) (year : Int)
  | whereMonth (column operator : String) (month : Nat)
  | whereDay (column operator : String) (day : Nat)
  | whereToday (column : String)
  | whereYesterday (column : String)
  | whereLastDays (column : String) (days : Nat)
  | whereBetweenDates (column : String) (start stop : DateInput)
  | insert (records : List Record)
  | update (changes : Record)
  | delete
  | raw (sql : String) (values : List Value)
  | cache (options : CacheOptions)
  | noCache
  | encrypt (fields : List String)

namespace Builder

def with? (builder : Builder) (result : Except QueryError Clauses) : Except QueryError Builder :=
  result.map (fun clauses => { builder with clauses := clauses })

mutual

/-- A group starts from an empty builder of the same kind, of which only the conditions are kept. -/
def apply (builder : Builder) : Call → Except QueryError Builder
  | .readFrom table => builder.with? (builder.clauses.readFrom builder.profile table)
  | .readFromAs table aliasName =>
      builder.with? (builder.clauses.readFromAs builder.profile table aliasName)
  | .select columns => builder.with? (builder.clauses.select builder.profile columns)
  | .selectColumns text => builder.with? (builder.clauses.selectColumns builder.profile text)
  | .selectAliased pairs => builder.with? (builder.clauses.selectAliased builder.profile pairs)
  | .addSelect columns => builder.with? (builder.clauses.addSelect builder.profile columns)
  | .distinct => builder.with? (.ok { builder.clauses with distinct := true })
  | .join kind table first operator second =>
      builder.with? (builder.clauses.join builder.profile kind table first operator second)
  | .crossJoin table => builder.with? (builder.clauses.crossJoin builder.profile table)
  | .joinRaw kind table condition =>
      builder.with? (builder.clauses.joinRaw builder.profile kind table condition)
  | .groupBy columns => builder.with? (builder.clauses.groupBy builder.profile columns)
  | .having column operator value =>
      builder.with? (builder.clauses.having builder.profile column operator value)
  | .havingRaw sql values => builder.with? (builder.clauses.havingRaw sql values)
  | .orderBy column direction =>
      builder.with? (builder.clauses.orderBy builder.profile column direction)
  | .orderByRaw expression => builder.with? (builder.clauses.orderByRaw expression)
  | .limit number => builder.with? (builder.clauses.withLimit number)
  | .offset number => builder.with? (builder.clauses.withOffset number)
  | .compare combinator column operator value =>
      builder.with? (builder.clauses.compare builder.profile combinator column operator value)
  | .membership combinator negated column values =>
      builder.with?
        (builder.clauses.membership builder.profile combinator negated column values)
  | .between combinator negated column low high =>
      builder.with?
        (builder.clauses.between builder.profile combinator negated column low high)
  | .nullTest combinator negated column =>
      builder.with? (builder.clauses.nullTest builder.profile combinator negated column)
  | .whereRaw combinator sql values =>
      builder.with? (builder.clauses.whereRaw combinator sql values)
  | .group combinator calls =>
      builder.with?
        ((applyAll { profile := builder.profile, cacheable := builder.cacheable } calls).map
          (fun inner => builder.clauses.addGroup combinator inner.clauses))
  | .whereDate column operator date =>
      builder.with? (builder.clauses.whereDate builder.profile column operator date)
  | .whereYear column operator year =>
      builder.with? (builder.clauses.whereYear builder.profile column operator year)
  | .whereMonth column operator month =>
      builder.with? (builder.clauses.whereMonth builder.profile column operator month)
  | .whereDay column operator day =>
      builder.with? (builder.clauses.whereDay builder.profile column operator day)
  | .whereToday column => builder.with? (builder.clauses.whereToday builder.profile column)
  | .whereYesterday column =>
      builder.with? (builder.clauses.whereYesterday builder.profile column)
  | .whereLastDays column days =>
      builder.with? (builder.clauses.whereLastDays builder.profile column days)
  | .whereBetweenDates column start stop =>
      builder.with? (builder.clauses.whereBetweenDates builder.profile column start stop)
  | .insert records => builder.with? (builder.clauses.insertMany builder.profile records)
  | .update changes => builder.with? (builder.clauses.updateWith builder.profile changes)
  | .delete => builder.with? builder.clauses.deleteRows
  | .raw sql values => builder.with? (.ok (builder.clauses.withRaw sql values))
  | .cache options => builder.cached options
  | .noCache => .ok builder.uncached
  | .encrypt fields => .ok (builder.markEncrypted fields)

/-- Stops at the first call that is refused. -/
def applyAll (builder : Builder) : List Call → Except QueryError Builder
  | [] => .ok builder
  | call :: rest =>
      match apply builder call with
      | .ok next => applyAll next rest
      | .error error => .error error

end

end Builder

end BoundQuery
