import DeclGen.Main
import DeclGen.Proofs.Inheritance.ByName
import DeclGen.Proofs.Inheritance.Cycle
import DeclGen.Proofs.Resolution.Alarms
import DeclGen.Proofs.Run.Generation
import DeclGen.Proofs.Resolution.Machine
import DeclGen.Proofs.Resolution.Halting
import DeclGen.Proofs.WellFormed
import DeclGen.Proofs.Emission.Buffer
import DeclGen.Proofs.Emission.Closed
import DeclGen.Proofs.Resolution.Asked
import DeclGen.Proofs.Inheritance.Appending
import DeclGen.Proofs.Appending
import DeclGen.Proofs.Resolution.Hygiene
import DeclGen.Proofs.Inheritance.LibraryBase
import DeclGen.Proofs.Inheritance.Rearranging
import DeclGen.Proofs.Rearranging
import DeclGen.Proofs.Resolution.Precedence
import DeclGen.Proofs.Inheritance.Kinds
import DeclGen.Proofs.Kinds
import DeclGen.Proofs.Collections.Positions
import DeclGen.Proofs.Delimited
import DeclGen.Proofs.ReadableShape
import DeclGen.Proofs.Emission.Readable
import DeclGen.Proofs.Dump.References
import DeclGen.Proofs.Dump.Decoding
import DeclGen.Proofs.Dump.Texts
import DeclGen.Proofs.FileName
import DeclGen.Proofs.Run.FileTree
import DeclGen.Proofs.EnumValues
import DeclGen.Proofs.MemberNames
import DeclGen.Proofs.Layers
import DeclGen.Proofs.InterfaceSearch
