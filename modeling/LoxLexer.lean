import LoxLexer.CharStream.Between
import LoxLexer.CharStream.Cursor
import LoxLexer.Grammar
import LoxLexer.Lexer.Call
import LoxLexer.Main
import LoxLexer.Separation
import LoxLexer.Proofs.Opening
import LoxLexer.Proofs.Cut
import LoxLexer.Proofs.NextToken
import LoxLexer.Proofs.Reading
import LoxLexer.Proofs.Lossless
import LoxLexer.Proofs.MaximalMunch
import LoxLexer.Proofs.Printing
import LoxLexer.Proofs.Resumption
import LoxLexer.Proofs.ReadingBefore
import LoxLexer.Proofs.Refusal
import LoxLexer.Proofs.Drawing
import LoxLexer.Proofs.Positions
import LoxLexer.Proofs.CursorView
import LoxLexer.Proofs.Extension
import LoxLexer.Proofs.LineFeed
import LoxLexer.Proofs.Decoding
import LoxLexer.Proofs.Lines
import LoxLexer.Proofs.Prompt
import LoxLexer.Proofs.LineByLine
import LoxLexer.Proofs.Bounds
import LoxLexer.Proofs.Lookahead
import LoxLexer.Proofs.FileListing
import LoxLexer.Proofs.FirstIllegal
import LoxLexer.Proofs.Opacity
import LoxLexer.Proofs.TokenStream
import LoxLexer.Proofs.RunLog
import LoxLexer.Proofs.Terminators
import LoxLexer.Proofs.FaithfulListing
