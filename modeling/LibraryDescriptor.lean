import LibraryDescriptor.Main
import LibraryDescriptor.Proofs.Symbol.AlphaConversion
import LibraryDescriptor.Proofs.Printer.LoopClause
import LibraryDescriptor.Proofs.RoundTrip
import LibraryDescriptor.Proofs.Descriptor.Keys
import LibraryDescriptor.Proofs.Parser.Failures
import LibraryDescriptor.Proofs.Parser.Shape
import LibraryDescriptor.Proofs.Descriptor.Atomicity
import LibraryDescriptor.Proofs.Descriptor.PrivateKeys
import LibraryDescriptor.Proofs.Bundle.Failures
import LibraryDescriptor.Proofs.Descriptor.SourceOrder
import LibraryDescriptor.Proofs.Descriptor.PureValues
import LibraryDescriptor.Proofs.Parser.PrecedenceClimbing
import LibraryDescriptor.Proofs.ControlRoundTrip
import LibraryDescriptor.Proofs.Token.Places
import LibraryDescriptor.Proofs.Descriptor.Policies
