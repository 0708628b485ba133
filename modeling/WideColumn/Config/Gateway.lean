import WideColumn.Config.Site
import WideColumn.Store.Event
import WideColumn.Value.Number

/-!
The gateway of a site: its own host, or else the first host of the coordination quorum.
-/
namespace WideColumn.Config

def hostKey : String := "hbase.thrift.host"
def portKey : String := "hbase.thrift.port"
def timeoutKey : String := "hbase.thrift.timeout.ms"
def transportKey : String := "hbase.thrift.transport"
def protocolKey : String := "hbase.thrift.protocol"

def defaultPort : Int := 9090

def partBefore (c : Char) (cs : List Char) : List Char := cs.takeWhile (· ≠ c)

def firstHost (quorum : String) : String :=
  String.ofList (partBefore ':' (Text.trim (partBefore ',' quorum.toList)))

def gatewayHost (site : Site) : String :=
  match site.get? hostKey with
  | some host => if host.isEmpty then quorumHost else host
  | none => quorumHost
where
  quorumHost : String := firstHost ((site.get? siteQuorumKey).getD "localhost")

def gatewayAddress (site : Site) : Except Text.IntegerError Store.GatewayAddress := do
  let port ←
    match site.get? portKey with
    | some port => Text.readInteger port.toList
    | none => .ok defaultPort
  let timeout ←
    match site.get? timeoutKey with
    | none | some "" => .ok none
    | some timeout => (Text.readInteger timeout.toList).map some
  return ⟨gatewayHost site, port, timeout, (site.get? transportKey).getD "buffered",
    (site.get? protocolKey).getD "binary"⟩

end WideColumn.Config
