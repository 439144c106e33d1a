import SqlIdentifier.CharClass.Dialects
import SqlIdentifier.Cursor.Session
import SqlIdentifier.Identifier.Scan
import SqlIdentifier.Identifier.Spelling
import SqlIdentifier.Program
import SqlIdentifier.Main
import SqlIdentifier.Proofs.CodePointCursor
import SqlIdentifier.Proofs.DialectLattice
import SqlIdentifier.Proofs.EscapeClause
import SqlIdentifier.Proofs.EscapeConcatenation
import SqlIdentifier.Proofs.EscapeGrammar
import SqlIdentifier.Proofs.FirstMatch
import SqlIdentifier.Proofs.HexNotation
import SqlIdentifier.Proofs.JsonReports
import SqlIdentifier.Proofs.Listing
import SqlIdentifier.Proofs.Locality
import SqlIdentifier.Proofs.LongestRun
import SqlIdentifier.Proofs.NormalForm
import SqlIdentifier.Proofs.PrintableSpelling
import SqlIdentifier.Proofs.QuotedTexts
import SqlIdentifier.Proofs.Regrouping
import SqlIdentifier.Proofs.ScanTokens
import SqlIdentifier.Proofs.SelectedConfiguration
import SqlIdentifier.Proofs.SettingsFile
import SqlIdentifier.Proofs.SpanSoundness
import SqlIdentifier.Proofs.UnboundedRounds
