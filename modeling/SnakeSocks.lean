import SnakeSocks.Lib.Bytes
import SnakeSocks.Lib.CMem
import SnakeSocks.Lib.Frames
import SnakeSocks.Lib.Lts
import SnakeSocks.Lib.Effects
import SnakeSocks.Lib.Ledger
import SnakeSocks.Lib.Owned
import SnakeSocks.Lib.Tenure
import SnakeSocks.Lib.Tally
import SnakeSocks.Lib.InetText
import SnakeSocks.Module.KokkeAes
import SnakeSocks.Module.Aes
import SnakeSocks.Module.Packet
import SnakeSocks.Module.SimpleProxy
import SnakeSocks.Module.SeProxy
import SnakeSocks.Module.Decoders
import SnakeSocks.Module.SeSession
import SnakeSocks.Module.Unpad
import SnakeSocks.Module.Residue
import SnakeSocks.Module.Eavesdrop
import SnakeSocks.Native.Sio
import SnakeSocks.Native.Format
import SnakeSocks.Native.Socks5
import SnakeSocks.Native.Readall
import SnakeSocks.Native.Relay
import SnakeSocks.Native.RelayProofs
import SnakeSocks.Native.Framing
import SnakeSocks.Native.Address
import SnakeSocks.Native.Calls
import SnakeSocks.Native.Launch
import SnakeSocks.Native.Negotiation
import SnakeSocks.Native.Inbound
import SnakeSocks.Native.Listener
import SnakeSocks.Native.Isolation
import SnakeSocks.Native.Agreement
import SnakeSocks.Native.InboundHeap
import SnakeSocks.Native.LaunchHeap
import SnakeSocks.Native.Request
import SnakeSocks.Native.Classify
import SnakeSocks.Native.EndToEnd
import SnakeSocks.Native.Names
import SnakeSocks.Native.ThreadPool
import SnakeSocks.Native.Opt
import SnakeSocks.Native.Startup
import SnakeSocks.Go.Session
import SnakeSocks.Go.Control
import SnakeSocks.Go.Accounting
import SnakeSocks.Go.Progress
import SnakeSocks.Go.Relay
import SnakeSocks.Go.Orderly
import SnakeSocks.Go.Handle
import SnakeSocks.Go.Pool
import SnakeSocks.Go.FirstPacket
import SnakeSocks.Go.CHeap
