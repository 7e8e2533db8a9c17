import LoxTokens.Fixture.Suite
import LoxTokens.Main
import LoxTokens.Session
import LoxTokens.Proofs.Blanking
import LoxTokens.Proofs.LineNumbers
import LoxTokens.Proofs.Pulling
import LoxTokens.Proofs.Shifting
import LoxTokens.Proofs.Concatenation
import LoxTokens.Proofs.Words
import LoxTokens.Proofs.Reporting
import LoxTokens.Proofs.NumberTexts
import LoxTokens.Proofs.Encoding
import LoxTokens.Proofs.Printing
import LoxTokens.Proofs.TextLines
import LoxTokens.Proofs.PrintedTexts
import LoxTokens.Proofs.PrintedRuns
import LoxTokens.Proofs.Comparing
import LoxTokens.Proofs.GeneratedFixtures
import LoxTokens.Proofs.Decoding
import LoxTokens.Proofs.Respacing
import LoxTokens.Proofs.FileRuns
import LoxTokens.Proofs.LogSettings
import LoxTokens.Proofs.Verdicts
import LoxTokens.Proofs.RoundedUnits
import LoxTokens.Proofs.NearestNumbers
import LoxTokens.Proofs.NumberDecoding
import LoxTokens.Proofs.ShortestDecimals
import LoxTokens.Proofs.WrittenNumbers
import LoxTokens.Proofs.Modes
import LoxTokens.Proofs.Lookahead
import LoxTokens.Proofs.LineEndings
import LoxTokens.Proofs.BoundedChannels
import LoxTokens.Proofs.LossyDecoding
import LoxTokens.Proofs.ReadingExpectations
import LoxTokens.Proofs.ScanLogs
import LoxTokens.Proofs.TokenEquality
import LoxTokens.Proofs.DebugLogging
import LoxTokens.Proofs.Restarting
