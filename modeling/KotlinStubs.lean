import KotlinStubs.Scan
import KotlinStubs.Json.Reader
import KotlinStubs.Json.Printer
import KotlinStubs.Syntax.Rows
import KotlinStubs.Kotlin.Printer
import KotlinStubs.Kotlin.Encode
import KotlinStubs.Kotlin.Decode
import KotlinStubs.Text.Quoted
import KotlinStubs.Text.Lowercase
import KotlinStubs.Settings.Load
import KotlinStubs.Syntax.Cursor
import KotlinStubs.Syntax.View
import KotlinStubs.Main
import KotlinStubs.Proofs.Shape
import KotlinStubs.Proofs.Comments
import KotlinStubs.Proofs.Isolation
import KotlinStubs.Proofs.Namespaces
import KotlinStubs.Proofs.Resolution
import KotlinStubs.Proofs.Reads
import KotlinStubs.Proofs.Faults
import KotlinStubs.Proofs.LeftOut
import KotlinStubs.Proofs.TypeGrammar
import KotlinStubs.Proofs.TypeText
import KotlinStubs.Proofs.TypeReading
import KotlinStubs.Proofs.Escaping
import KotlinStubs.Proofs.Spelling
import KotlinStubs.Proofs.Qualifier
import KotlinStubs.Proofs.Traces
import KotlinStubs.Proofs.SourceOrder
import KotlinStubs.Proofs.ControlCharacters
import KotlinStubs.Proofs.ComposedName
import KotlinStubs.Proofs.FirstFault
import KotlinStubs.Proofs.FunctionTypes
import KotlinStubs.Proofs.Wrappers
import KotlinStubs.Proofs.Verdict
import KotlinStubs.Proofs.RestParameters
import KotlinStubs.Proofs.TypeStarts
import KotlinStubs.Proofs.SignatureText
import KotlinStubs.Proofs.Omissions
import KotlinStubs.Proofs.Members
import KotlinStubs.Proofs.Visibility
import KotlinStubs.Proofs.Alternation
import KotlinStubs.Proofs.SplitText
import KotlinStubs.Proofs.PrintedForms
import KotlinStubs.Proofs.Indentation
import KotlinStubs.Proofs.Sections
import KotlinStubs.Proofs.Varied
import KotlinStubs.Proofs.Closed
import KotlinStubs.Proofs.CursorHistory
import KotlinStubs.Proofs.Collisions
import KotlinStubs.Proofs.PackageNames
