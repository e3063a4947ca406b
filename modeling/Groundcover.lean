import Groundcover.Arguments
import Groundcover.CommandLine
import Groundcover.Config
import Groundcover.Config.File
import Groundcover.Config.Printer
import Groundcover.Config.Reader
import Groundcover.Coverage
import Groundcover.Diagnostic
import Groundcover.Disk
import Groundcover.Document.Number
import Groundcover.Document.Quoted
import Groundcover.Document.Reader
import Groundcover.Document.Record
import Groundcover.Document.Skip
import Groundcover.Fingerprint
import Groundcover.Generation
import Groundcover.Image
import Groundcover.Image.Bytes
import Groundcover.Image.Cache
import Groundcover.Image.Checksum
import Groundcover.Image.Deflate
import Groundcover.Image.Format
import Groundcover.Image.Jpeg
import Groundcover.Image.Jpeg.Bits
import Groundcover.Image.Jpeg.Frame
import Groundcover.Image.Jpeg.Marker
import Groundcover.Image.Jpeg.Progressive
import Groundcover.Image.Jpeg.Sequential
import Groundcover.Image.Jpeg.Settings
import Groundcover.Image.Jpeg.Tables
import Groundcover.Image.Png
import Groundcover.Image.PrefixCode
import Groundcover.Image.Size
import Groundcover.LandCover
import Groundcover.Layer
import Groundcover.Legend
import Groundcover.Legend.Predicate
import Groundcover.Library
import Groundcover.Log
import Groundcover.Log.Filter
import Groundcover.Log.Line
import Groundcover.Main
import Groundcover.Manifest
import Groundcover.Manifest.File
import Groundcover.Manifest.Reader
import Groundcover.Output
import Groundcover.Path
import Groundcover.Program
import Groundcover.Session
import Groundcover.Shader
import Groundcover.Shader.Lines
import Groundcover.Shader.Options
import Groundcover.Shader.ProgramSource
import Groundcover.Shader.TableSource
import Groundcover.Single
import Groundcover.Single.Decimal
import Groundcover.Single.Shortest
import Groundcover.Single.Text
import Groundcover.Storage
import Groundcover.Symbol
import Groundcover.Tables
import Groundcover.Terminal
import Groundcover.Text.Alphanumeric
import Groundcover.Text.Blank
import Groundcover.Text.Escape
import Groundcover.Text.Identifier
import Groundcover.Text.Pattern
import Groundcover.Text.Pieces
import Groundcover.Text.Ranges
import Groundcover.Text.Utf8
import Groundcover.Proofs.Agreement
import Groundcover.Proofs.ClassList
import Groundcover.Proofs.Classification
import Groundcover.Proofs.Config.File
import Groundcover.Proofs.Config.Text
import Groundcover.Proofs.Configuration
import Groundcover.Proofs.Congruence
import Groundcover.Proofs.Disk
import Groundcover.Proofs.Document.Number
import Groundcover.Proofs.Document.Quoted
import Groundcover.Proofs.Document.Record
import Groundcover.Proofs.Dropping
import Groundcover.Proofs.Execution
import Groundcover.Proofs.Failure
import Groundcover.Proofs.Flattening
import Groundcover.Proofs.Generation
import Groundcover.Proofs.IdleClasses
import Groundcover.Proofs.ImageHistory
import Groundcover.Proofs.Images
import Groundcover.Proofs.Invocation
import Groundcover.Proofs.LandCover
import Groundcover.Proofs.LayerShaders
import Groundcover.Proofs.Legend
import Groundcover.Proofs.Library
import Groundcover.Proofs.Numbers
import Groundcover.Proofs.Outline
import Groundcover.Proofs.Output
import Groundcover.Proofs.Path
import Groundcover.Proofs.Playback
import Groundcover.Proofs.Program
import Groundcover.Proofs.Raising
import Groundcover.Proofs.Records
import Groundcover.Proofs.Renaming
import Groundcover.Proofs.Reordering
import Groundcover.Proofs.Repetition
import Groundcover.Proofs.Resolution
import Groundcover.Proofs.Session
import Groundcover.Proofs.Shader.Options
import Groundcover.Proofs.Shader.ProgramSource
import Groundcover.Proofs.Shader.Reader
import Groundcover.Proofs.Shader.Statements
import Groundcover.Proofs.Shader.TableSource
import Groundcover.Proofs.Shader.Words
import Groundcover.Proofs.Single.Literal
import Groundcover.Proofs.Single.Nearest
import Groundcover.Proofs.Single.ReadBack
import Groundcover.Proofs.Single.Rounding
import Groundcover.Proofs.Single.Shortest
import Groundcover.Proofs.Stems
import Groundcover.Proofs.Storage
import Groundcover.Proofs.Tables
import Groundcover.Proofs.Text.Pieces
import Groundcover.Proofs.Warnings
import Groundcover.Proofs.Ways
import Groundcover.Proofs.Writing
