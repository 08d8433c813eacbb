import FluentQuery.Embedded.Engine
import FluentQuery.Oracle.Client
import FluentQuery.Plan.Display
import FluentQuery.Plan.Run
import FluentQuery.Settings.Load
import FluentQuery.Source.Basic
import FluentQuery.Value.Tagged
import FluentQuery.Vector.Store
import FluentQuery.Proofs.AliasHints
import FluentQuery.Proofs.AttachedReaders
import FluentQuery.Proofs.BlankWords
import FluentQuery.Proofs.Calls
import FluentQuery.Proofs.CodeFences
import FluentQuery.Proofs.CommaSeparated
import FluentQuery.Proofs.CommandText
import FluentQuery.Proofs.CompactText
import FluentQuery.Proofs.DateTimeOrder
import FluentQuery.Proofs.Displays
import FluentQuery.Proofs.DistinctReaders
import FluentQuery.Proofs.DrainedRecords
import FluentQuery.Proofs.Draining
import FluentQuery.Proofs.EmbeddedColumns
import FluentQuery.Proofs.Execution
import FluentQuery.Proofs.FetchedCollections
import FluentQuery.Proofs.FileAliases
import FluentQuery.Proofs.FilledTable
import FluentQuery.Proofs.FilterKeys
import FluentQuery.Proofs.FirstValues
import FluentQuery.Proofs.InsertedKeys
import FluentQuery.Proofs.InsertedRows
import FluentQuery.Proofs.Lexemes
import FluentQuery.Proofs.Literals
import FluentQuery.Proofs.NestedValues
import FluentQuery.Proofs.Occurrences
import FluentQuery.Proofs.Outcomes
import FluentQuery.Proofs.PageEnds
import FluentQuery.Proofs.Paging
import FluentQuery.Proofs.PermanentTables
import FluentQuery.Proofs.PrefixCodes
import FluentQuery.Proofs.QueryText
import FluentQuery.Proofs.Reachable
import FluentQuery.Proofs.ReaderRows
import FluentQuery.Proofs.ReaderTable
import FluentQuery.Proofs.RecordColumns
import FluentQuery.Proofs.RemoteAliases
import FluentQuery.Proofs.RepeatedRuns
import FluentQuery.Proofs.ResolvedSettings
import FluentQuery.Proofs.SearchRows
import FluentQuery.Proofs.SearchSteps
import FluentQuery.Proofs.Secrets
import FluentQuery.Proofs.SelectionForms
import FluentQuery.Proofs.SelectionText
import FluentQuery.Proofs.StatementReading
import FluentQuery.Proofs.StoredCells
import FluentQuery.Proofs.StoredEmbeddings
import FluentQuery.Proofs.TabSeparated
import FluentQuery.Proofs.TableForms
import FluentQuery.Proofs.TableRegistry
import FluentQuery.Proofs.TableText
import FluentQuery.Proofs.TaggedValues
import FluentQuery.Proofs.UniqueReading
import FluentQuery.Proofs.WideIntegers
