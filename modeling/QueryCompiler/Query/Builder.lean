import QueryCompiler.Query.Basic

/-!
# Specifications step by step

A builder takes the fields of a specification one at a time.  A field that is set
twice keeps its last value; associations are appended.
-/

namespace QueryCompiler

/-- What was asked for so far. -/
structure QueryBuilder where
  filter : Option Json
  additionalFilter : Option Json
  attributes : List String
  page : Option UInt64
  perPage : Option UInt64
  allPage : Bool
  orderBy : List String
  expands : List ExpandEntry

inductive QueryBuilder.Step where
  | filter (expression : Json)
  | additionalFilter (expression : Json)
  | attributes (names : List String)
  | page (number : UInt64)
  | perPage (length : UInt64)
  | allPage (all : Bool)
  | orderBy (tokens : List String)
  | expand (entry : ExpandEntry)

namespace QueryBuilder

def empty : QueryBuilder where
  filter := none
  additionalFilter := none
  attributes := []
  page := none
  perPage := none
  allPage := false
  orderBy := []
  expands := []

def step (builder : QueryBuilder) : Step → QueryBuilder
  | .filter expression => { builder with filter := some expression }
  | .additionalFilter expression => { builder with additionalFilter := some expression }
  | .attributes names => { builder with attributes := names }
  | .page number => { builder with page := some number }
  | .perPage length => { builder with perPage := some length }
  | .allPage all => { builder with allPage := all }
  | .orderBy tokens => { builder with orderBy := tokens }
  | .expand entry => { builder with expands := builder.expands ++ [entry] }

def steps (builder : QueryBuilder) (all : List Step) : QueryBuilder :=
  all.foldl step builder

/-- The specification that was asked for.  Null filters, zeros and empty tokens
count as not given. -/
def build (builder : QueryBuilder) : QuerySpec where
  filter := (builder.filter.bind Json.nonNull?).getD QuerySpec.emptyFilter
  additionalFilter := (builder.additionalFilter.bind Json.nonNull?).getD QuerySpec.emptyFilter
  attributes := builder.attributes
  page := (builder.page.filter fun number => 1 ≤ number).getD QuerySpec.defaultPage
  perPage := (builder.perPage.filter fun length => 1 ≤ length).getD QuerySpec.defaultPerPage
  allPage := builder.allPage
  orderBy := builder.orderBy.filter fun token => !token.isEmpty
  expands := builder.expands

end QueryBuilder

end QueryCompiler
