import TorGo.L1Encoding.Bytes
import TorGo.L1Encoding.Cell
import TorGo.L1Encoding.Text
import TorGo.L1Encoding.Base64
import TorGo.L2Crypto.Primitives
import TorGo.L2Crypto.Ntor
import TorGo.L3Circuit.Relay
import TorGo.L3Circuit.Layering
import TorGo.L3Circuit.Circuit
import TorGo.L3Circuit.RelayEarly
import TorGo.L4Stream.Stream
import TorGo.L4Stream.Simulation
import TorGo.L4Stream.Port
import TorGo.L4Stream.Mux
import TorGo.L4Stream.FlowControl
import TorGo.L4Stream.Delivery
import TorGo.L5Onion.IntroPoint
import TorGo.L5Onion.Descriptor
import TorGo.L5Onion.HsNtor
import TorGo.L5Onion.LinkSpec
import TorGo.L5Onion.Connect
import TorGo.L5Onion.Fetch
import TorGo.L5Onion.HsDir
import TorGo.L5Directory.KeyCerts
import TorGo.L5Directory.Signatures
import TorGo.L5Directory.PathSelect
import TorGo.L5Onion.DescriptorLayer
import TorGo.L2Crypto.LinkCerts
import TorGo.L1Encoding.Base32
import TorGo.L2Crypto.Edwards25519
import TorGo.L5Onion.Address
import TorGo.L2Crypto.LinkHandshake
import TorGo.L5Socks.Server
import TorGo.L5Directory.Consensus
import TorGo.L5Directory.Microdesc
import TorGo.L5Directory.Cache
import TorGo.L5Directory.RouterDescriptor
