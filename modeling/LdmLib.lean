import LdmLib.Run
import LdmLib.Ledger
import LdmLib.TwoPass
import LdmLib.Esp
import LdmLib.Bluetooth
import LdmLib.BluetoothFlags
import LdmLib.BluetoothRecovery
import LdmLib.HttpServer
import LdmLib.HttpRegistry
import LdmLib.HttpLifecycle
import LdmLib.HttpClient
import LdmLib.HttpClientHandles
import LdmLib.Bytes
import LdmLib.Prog
import LdmLib.WifiConfig
import LdmLib.Device
import LdmLib.Wifi
import LdmLib.Blufi
import LdmLib.DeviceRun
import LdmLib.BlufiCredentials
import LdmLib.BlufiFrame
import LdmLib.WifiConnected
import LdmLib.WifiReassociate
import LdmLib.WifiNetifs
import LdmLib.BlufiProvisioning
import LdmLib.BleConnection
import LdmLib.BlufiStatus
import LdmLib.WifiPhase
import LdmLib.HttpSessions
import LdmLib.Led
import LdmLib.LedFade
import LdmLib.Sleep
import LdmLib.Nvs
import LdmLib.NvsHandles
import LdmLib.Thread
import LdmLib.DeviceThread
import LdmLib.EventLoop
import LdmLib.WifiHosting
import LdmLib.BlufiRace
import LdmLib.HttpUnregister
import LdmLib.HttpDelivery
import LdmLib.SoftapSsid
import LdmLib.WifiDefaults
import LdmLib.JsonHeap
import LdmLib.Text
import LdmLib.WifiReport
import LdmLib.WifiReportSections
import LdmLib.WifiReportStrings
import LdmLib.KeyedTree
import LdmLib.System
import LdmLib.SystemReport
import LdmLib.LedChannels
import LdmLib.HttpErase
import LdmLib.LastWriter
import LdmLib.Transcript
import LdmLib.HttpRequests
import LdmLib.HttpRoutes
import LdmLib.DeviceParts
import LdmLib.DriverHistory
import LdmLib.WifiAddress
import LdmLib.WifiSessions
import LdmLib.DeviceFailure
import LdmLib.BleHistory
import LdmLib.BluetoothLife
import LdmLib.SystemOwnership
import LdmLib.Plan
import LdmLib.LedInit
