import Graft.ErrorObject
import Graft.Session.Start
import Graft.Proofs.Splicing
import Graft.Proofs.Atomicity
import Graft.Proofs.PrivateNames
import Graft.Proofs.Dispatch
import Graft.Proofs.Marks
import Graft.Proofs.Convention
import Graft.Proofs.Closures
import Graft.Proofs.Minting
import Graft.Proofs.OwnText
import Graft.Proofs.RegisteredTexts
import Graft.Proofs.Records
import Graft.Proofs.WriteBack
import Graft.Proofs.Replacement
import Graft.Proofs.Absence
import Graft.Proofs.Rereading
import Graft.Proofs.Grammar.Lockstep
import Graft.Proofs.PlacementRules
import Graft.Proofs.Grammar.Strings
import Graft.Proofs.Lexer.Abreast
import Graft.Proofs.Lexer.Ahead
import Graft.Proofs.Lexer.InStep
import Graft.Proofs.Describing
import Graft.Proofs.Misuse
import Graft.Proofs.JsonDepth
import Graft.Proofs.Leaks
import Graft.Proofs.MarkHistory
import Graft.Proofs.RegisteredLines
import Graft.Proofs.SettingsFaults
import Graft.Proofs.Grammar.Spans
import Graft.Proofs.Grammar.TwoTexts
import Graft.Proofs.Lexer.Dedenting
import Graft.Proofs.Snippet
import Graft.Proofs.WantedIdentifiers
import Graft.Proofs.Reporting
import Graft.Proofs.Reindenting
import Graft.Proofs.Remarks
import Graft.Proofs.EmptySnippets
import Graft.Proofs.Declared
import Graft.Proofs.Nested
import Graft.Proofs.Titles
import Graft.Proofs.InnerTitles
