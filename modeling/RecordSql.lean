import RecordSql.Database.Session
import RecordSql.Database.Store
import RecordSql.MySql.Address
import RecordSql.MySql.Value
import RecordSql.Naming.Memo
import RecordSql.Record.Declaration
import RecordSql.Proofs.Number.Digits
import RecordSql.Proofs.Sql.Token
import RecordSql.Proofs.Text.Separated
import RecordSql.Proofs.Sql.Spelling
import RecordSql.Proofs.Sql.Binding
import RecordSql.Proofs.Sql.Containment
import RecordSql.Proofs.Sql.Page
import RecordSql.Proofs.Database.Indexes
import RecordSql.Proofs.Sql.Serials
import RecordSql.Proofs.Record.Flattening
import RecordSql.Proofs.Database.Columns
import RecordSql.Proofs.Database.Requests
import RecordSql.Proofs.Database.Tables
import RecordSql.Proofs.Database.Sessions
import RecordSql.Proofs.Record.Defaults
import RecordSql.Proofs.MySql.Conversion
import RecordSql.Proofs.Sql.Keys
import RecordSql.Proofs.Database.Logging
import RecordSql.Proofs.Sql.Directions
import RecordSql.Proofs.Record.Words
import RecordSql.Proofs.Record.Canonical
import RecordSql.Proofs.Sql.Appending
import RecordSql.Proofs.Sql.Guarded
import RecordSql.Proofs.Database.Mapped
import RecordSql.Proofs.Record.Grammar
import RecordSql.Proofs.Record.Literals
import RecordSql.Proofs.Sql.Targets
import RecordSql.Proofs.Database.Cells
import RecordSql.Proofs.Record.Phrases
import RecordSql.Proofs.Sql.NullableKeys
import RecordSql.Proofs.Sql.Refusals
import RecordSql.Proofs.Sql.KeyFilters
import RecordSql.Proofs.Naming.Snake
import RecordSql.Proofs.Database.IndexRows
import RecordSql.Proofs.Database.Lengths
import RecordSql.Proofs.Database.Members
import RecordSql.Proofs.Naming.Memo
import RecordSql.Proofs.Record.Wrappers
import RecordSql.Proofs.Record.Extending
import RecordSql.Proofs.Record.Order
import RecordSql.Proofs.Sql.Translated
import RecordSql.Proofs.Database.Streams
import RecordSql.Proofs.MySql.Rows
import RecordSql.Proofs.Sql.Headings
import RecordSql.Proofs.Sql.Quoting
import RecordSql.Proofs.Database.Addresses
