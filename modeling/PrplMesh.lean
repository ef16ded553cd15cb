import PrplMesh.Transport.Lemmas.ForwardFailed
import PrplMesh.Broker.Lemmas.Publish
import PrplMesh.Broker.Lemmas.Server
import PrplMesh.Broker.Lemmas.Subscribe
import PrplMesh.Cmdu.Lemmas.Room
import PrplMesh.Cmdu.Lemmas.Deliver
import PrplMesh.Cmdu.Lemmas.Build
import PrplMesh.Controller.PreAssociationSteering
import PrplMesh.Controller.RadarAffected
import PrplMesh.Controller.Lemmas.SteerHistory
import PrplMesh.Controller.Lemmas.Ageing
import PrplMesh.Controller.Lemmas.Restart
import PrplMesh.Controller.Lemmas.Topology
import PrplMesh.Controller.Lemmas.TaskPool
import PrplMesh.Bwl.Lemmas.KeyValueParser
import PrplMesh.Agent.Lemmas.ServicePrioritization
import PrplMesh.Agent.Lemmas.SwitchChannelReports
import PrplMesh.Agent.Lemmas.CoordinatedCac
import PrplMesh.Controller.Lemmas.Autoconfig
import PrplMesh.Agent.Lemmas.BssErrors
import PrplMesh.Wsc.Lemmas.AttrWalk
import PrplMesh.Monitor.Polling
import PrplMesh.Monitor.Lemmas.Db
import PrplMesh.Monitor.Lemmas.Stats
import PrplMesh.Monitor.Lemmas.ChannelUtilization
import PrplMesh.Agent.Lemmas.LinkMetrics
import PrplMesh.Controller.Lemmas.ClientSteering
import PrplMesh.Bcl.Lemmas.EventLoop
import PrplMesh.Bcl.EventBatch
import PrplMesh.Agent.Lemmas.ZwdfsAntenna
import PrplMesh.Agent.Lemmas.DeclinedRadios
import PrplMesh.Controller.Lemmas.CacStatus
import PrplMesh.Transport.Lemmas.Neighbours
import PrplMesh.Transport.Lemmas.ForwardSinks
import PrplMesh.Transport.Lemmas.Network
import PrplMesh.Transport.PacketFilter
import PrplMesh.Hostapd.Editor
import PrplMesh.Agent.Lemmas.TrafficSeparation
import PrplMesh.Agent.SlaveThread
