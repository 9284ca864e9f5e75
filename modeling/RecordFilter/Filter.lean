/-
Filters: a query bound to the schema of the records it is for. The
expression is made at once; compiling it is a second step, which can fail
and whose failure must not be taken for a filter that accepts everything.
-/
import RecordFilter.Predicate
import RecordFilter.QueryString

namespace RecordFilter

/-- A query for the records of one schema. -/
structure Filter where
  schema : Schema
  expression : Expression

namespace Filter

/-- The filter of parameters that are already decoded. -/
def ofParameters (schema : Schema) (parameters : Parameters)
    (config : Config) : Filter :=
  ⟨schema, Expression.build schema parameters config⟩

/-- The filter of a query string. -/
def ofQuery (schema : Schema) (query : String) (config : Config) : Filter :=
  ofParameters schema (QueryString.parse query) config

/-- Compiles the filter. -/
def compile (filter : Filter) : Except CompileError Predicate :=
  filter.expression.compile filter.schema

/-- The items whose records the filter accepts, in their order. -/
def apply {α : Type} (filter : Filter) (record : α → Record) (items : List α) :
    Except CompileError (List α) :=
  filter.compile.map fun predicate =>
    items.filter fun item => predicate.accepts (record item)

/-- The rendered expression, empty if nothing is asked. -/
def render (filter : Filter) : String := filter.expression.render

end Filter

end RecordFilter
