import SqlBuilder.Connection.Choice
import SqlBuilder.Decimal.Reading
import SqlBuilder.Proofs.Alignment
import SqlBuilder.Proofs.Delivery
import SqlBuilder.Proofs.Paging.Walk
import SqlBuilder.Proofs.Predicate.Built
import SqlBuilder.Session.Call.Named
import SqlBuilder.Session.Defaults
import SqlBuilder.Proofs.Assembly
import SqlBuilder.Proofs.Assembly.Statement
import SqlBuilder.Proofs.Naming
import SqlBuilder.Proofs.Replacement
import SqlBuilder.Proofs.Replacement.Statement
import SqlBuilder.Proofs.Replacement.Build
import SqlBuilder.Proofs.Predicate.Truth
import SqlBuilder.Proofs.Select
import SqlBuilder.Proofs.Paging.Behind
import SqlBuilder.Proofs.Paging.Restriction
import SqlBuilder.Proofs.Paging.Projection
import SqlBuilder.Proofs.Padding
import SqlBuilder.Proofs.Padding.Insertion
import SqlBuilder.Proofs.Padding.Session
import SqlBuilder.Proofs.Drafting.Statement
import SqlBuilder.Proofs.Nesting
import SqlBuilder.Proofs.Driver
import SqlBuilder.Proofs.Driver.Escapes
import SqlBuilder.Proofs.Fault.Session
import SqlBuilder.Proofs.Rendering
import SqlBuilder.Proofs.Reordering
import SqlBuilder.Proofs.Headline
import SqlBuilder.Proofs.Lasting
import SqlBuilder.Proofs.Unions
import SqlBuilder.Proofs.Inlining
import SqlBuilder.Proofs.Inlining.Statement
import SqlBuilder.Proofs.Transaction.Key
import SqlBuilder.Proofs.Atomicity
import SqlBuilder.Proofs.Sharing
import SqlBuilder.Proofs.Template.Window
import SqlBuilder.Proofs.Survival
import SqlBuilder.Proofs.Batch.Statement
import SqlBuilder.Proofs.Dialects
import SqlBuilder.Proofs.Columns.Script
import SqlBuilder.Proofs.Contents.Build
import SqlBuilder.Proofs.Tiling
import SqlBuilder.Proofs.Logging
import SqlBuilder.Proofs.Lineage.Scenario
