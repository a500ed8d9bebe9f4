import IPv6.Main
import IPv6.Proofs.Address.Comparison
import IPv6.Proofs.Address.Embedded
import IPv6.Proofs.Address.Prefixes
import IPv6.Proofs.Address.Printing
import IPv6.Proofs.CommandLine.Dumps
import IPv6.Proofs.CommandLine.Errors
import IPv6.Proofs.Session.Endpoints
import IPv6.Proofs.Session.Isolation
import IPv6.Proofs.Session.Lenses
import IPv6.Proofs.Session.Setters
import IPv6.Proofs.SocketAddress.Codec
import IPv6.Proofs.Table.Masks
import IPv6.Proofs.Table.Records
import IPv6.Proofs.Endpoint.Receiving
import IPv6.Proofs.Endpoint.Comparison
import IPv6.Proofs.Table.Matrix
import IPv6.Proofs.Table.Integers
import IPv6.Proofs.Value.Stored
import IPv6.Proofs.SocketAddress.Integers
import IPv6.Proofs.Overflow
import IPv6.Proofs.Value.Payload
import IPv6.Proofs.Coercion
import IPv6.Proofs.Table.Boundaries
import IPv6.Proofs.Endpoint.Copies
import IPv6.Proofs.Endpoint.Texts
