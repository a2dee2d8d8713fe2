import JumpArrows.Annotation
import JumpArrows.Codec.Config
import JumpArrows.Codec.Edge
import JumpArrows.Codec.Layout
import JumpArrows.Codec.Listing
import JumpArrows.Trace.Journal
import JumpArrows.Trace.Report
import JumpArrows.Proofs.EdgeOrder
import JumpArrows.Proofs.GridCells
import JumpArrows.Proofs.TrackPicture
import JumpArrows.Proofs.FirstFit
import JumpArrows.Proofs.Numerals
import JumpArrows.Proofs.Words
import JumpArrows.Proofs.PrintedLines
import JumpArrows.Proofs.Blocks
import JumpArrows.Proofs.PrintedListing
import JumpArrows.Proofs.BlockPartition
import JumpArrows.Proofs.Decorations
import JumpArrows.Proofs.Segments
import JumpArrows.Proofs.AnnotatedText
import JumpArrows.Proofs.ReadingTracks
import JumpArrows.Proofs.SortedEdges
import JumpArrows.Proofs.Concatenation
import JumpArrows.Proofs.DecoratedRecords
import JumpArrows.Proofs.LossyDecoding
import JumpArrows.Proofs.LossyLines
import JumpArrows.Proofs.JumpAccount
import JumpArrows.Proofs.Interference
import JumpArrows.Proofs.RowOrder
import JumpArrows.Proofs.Crossings
import JumpArrows.Proofs.RoutedEdges
import JumpArrows.Proofs.SpelledTokens
import JumpArrows.Proofs.SpelledValues
import JumpArrows.Proofs.CompactText
import JumpArrows.Proofs.Overlay
import JumpArrows.Proofs.AcceptedTexts
import JumpArrows.Proofs.CheckedCells
import JumpArrows.Proofs.LastingCells
import JumpArrows.Proofs.DrawnWays
import JumpArrows.Proofs.RevealedTracks
import JumpArrows.Proofs.LetterCase
import JumpArrows.Proofs.CaselessListings
import JumpArrows.Proofs.HeadGrammar
import JumpArrows.Proofs.OperandLiterals
import JumpArrows.Proofs.RejoinedTexts
