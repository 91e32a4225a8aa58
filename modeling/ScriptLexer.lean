import ScriptLexer.Main
import ScriptLexer.Session.Dialogue
import ScriptLexer.Proofs.Grammar
import ScriptLexer.Proofs.Lexeme
import ScriptLexer.Proofs.Scan
import ScriptLexer.Proofs.LongestMatch
import ScriptLexer.Proofs.Gap
import ScriptLexer.Proofs.Stream
import ScriptLexer.Proofs.Layout
import ScriptLexer.Proofs.Relayout
import ScriptLexer.Proofs.Append
import ScriptLexer.Proofs.Listing
import ScriptLexer.Proofs.Relisting
import ScriptLexer.Proofs.Acceptance
import ScriptLexer.Proofs.History
import ScriptLexer.Proofs.ScanLog
import ScriptLexer.Proofs.ByteScan
import ScriptLexer.Proofs.Progress
import ScriptLexer.Proofs.ClosingQuote
import ScriptLexer.Proofs.Exchange
import ScriptLexer.Proofs.Storage
import ScriptLexer.Proofs.TransferHistory
import ScriptLexer.Proofs.Outcome
import ScriptLexer.Proofs.Report
import ScriptLexer.Proofs.Spelling
