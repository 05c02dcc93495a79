import GelClient.Wire.Bytes
import GelClient.Protocol.Layout
import GelClient.Protocol.Frame
import GelClient.Protocol.Messages
import GelClient.Codec.Scalar
import GelClient.Codec.Structured
import GelClient.Codec.Descriptor
import GelClient.Transport.Net
import GelClient.Transport.Target
import GelClient.Config.Dsn
import GelClient.Transport.AddrParse
import GelClient.Transport.AddrText
import GelClient.Config.Tls
import GelClient.Server.Acceptor
import GelClient.Config.Pem
import GelClient.Codec.DeriveEnum
import GelClient.Transport.Resolve
import GelClient.Transport.SocketAddrText
import GelClient.Config.Credentials
import GelClient.Client.Connector
