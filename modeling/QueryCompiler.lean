import QueryCompiler.Main
import QueryCompiler.Compile.ContextCell
import QueryCompiler.Predicate.Holds
import QueryCompiler.Query.Builder
import QueryCompiler.Proofs.Json.WellFormed
import QueryCompiler.Proofs.Json.Record
import QueryCompiler.Proofs.Predicate.RoundTrip
import QueryCompiler.Proofs.Descriptor.Order
import QueryCompiler.Proofs.Descriptor.Include
import QueryCompiler.Proofs.Descriptor.RoundTrip
import QueryCompiler.Proofs.Query.WellFormed
import QueryCompiler.Proofs.Compile.Assemble
import QueryCompiler.Proofs.Descriptor.Written
import QueryCompiler.Proofs.Filter.Meaning
import QueryCompiler.Proofs.Compile.ReadBack
import QueryCompiler.Proofs.Compile.Stack
import QueryCompiler.Proofs.Compile.ReservedOptions
import QueryCompiler.Proofs.Json.Reading
import QueryCompiler.Proofs.Sort.Language
import QueryCompiler.Proofs.Descriptor.Fingerprint
import QueryCompiler.Proofs.Json.Within
import QueryCompiler.Proofs.Filter.Nesting
import QueryCompiler.Proofs.Json.TooDeep
import QueryCompiler.Proofs.Descriptor.Nesting
import QueryCompiler.Proofs.Compile.Nesting
import QueryCompiler.Proofs.Json.Same
import QueryCompiler.Proofs.Descriptor.Same
import QueryCompiler.Proofs.Compile.Fingerprint
import QueryCompiler.Proofs.Query.Normal
import QueryCompiler.Proofs.Query.Builder
import QueryCompiler.Proofs.Compile.Failure
import QueryCompiler.Proofs.Compile.SortEntries
import QueryCompiler.Proofs.Compile.LiveEntries
import QueryCompiler.Proofs.Compile.EntryAccount
import QueryCompiler.Proofs.Compile.EntryFailure
import QueryCompiler.Proofs.Filter.Dialect
import QueryCompiler.Proofs.Filter.Conditions
import QueryCompiler.Proofs.Predicate.Wildcard
import QueryCompiler.Proofs.Predicate.LetterCase
import QueryCompiler.Proofs.Binary64.Integers
import QueryCompiler.Proofs.Predicate.Integers
import QueryCompiler.Proofs.Compile.OrderAccount
import QueryCompiler.Proofs.Relation.Registration
import QueryCompiler.Proofs.Relation.Document
import QueryCompiler.Proofs.Query.WholeNumber
import QueryCompiler.Proofs.Compile.Pages
import QueryCompiler.Proofs.Query.Construction
import QueryCompiler.Proofs.Predicate.FieldPath
import QueryCompiler.Proofs.Predicate.Null
import QueryCompiler.Proofs.Filter.FieldReference
