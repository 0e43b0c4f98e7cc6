import ByteWaterlevel.Support.Machine
import ByteWaterlevel.Support.Panel
import ByteWaterlevel.Support.IntervalGate
import ByteWaterlevel.Support.SetReset
import ByteWaterlevel.Support.Chatter
import ByteWaterlevel.Support.TwoCopies
import ByteWaterlevel.Support.TimedSwitch
import ByteWaterlevel.Support.Calls
import ByteWaterlevel.Support.Window
import ByteWaterlevel.Support.Draft
import ByteWaterlevel.Support.Smoothing
import ByteWaterlevel.Support.ExtRat
import ByteWaterlevel.Support.Json
import ByteWaterlevel.Support.JsonMerge
import ByteWaterlevel.Support.JsonPath
import ByteWaterlevel.Support.Broker
import ByteWaterlevel.Support.Uplink
import ByteWaterlevel.Platform
import ByteWaterlevel.FileHandler
import ByteWaterlevel.DeviceHandler
import ByteWaterlevel.AutomationHandler
import ByteWaterlevel.WiFiHandler
import ByteWaterlevel.MQTTHandler
import ByteWaterlevel.OTAHandler
import ByteWaterlevel.WebHandler
import ByteWaterlevel.WebPage
import ByteWaterlevel.Relais
import ByteWaterlevel.Sensors
import ByteWaterlevel.Sensors.Pipeline
import ByteWaterlevel.Request
import ByteWaterlevel.Storage
import ByteWaterlevel.Storage.Save
import ByteWaterlevel.Storage.Recovery
import ByteWaterlevel.Storage.Copy
import ByteWaterlevel.Storage.Merge
import ByteWaterlevel.Storage.MergeConfig
import ByteWaterlevel.Request.Responses
import ByteWaterlevel.WebPage.RoundTrip
import ByteWaterlevel.WebPage.Status
import ByteWaterlevel.WebPage.Uptime
import ByteWaterlevel.Control.Machine
import ByteWaterlevel.Control.Tick
import ByteWaterlevel.Control.Latch
import ByteWaterlevel.Control.Flags
import ByteWaterlevel.Control.Hysteresis
import ByteWaterlevel.Control.Pins
import ByteWaterlevel.Control.Safety
import ByteWaterlevel.Control.Timer
import ByteWaterlevel.Control.TimedRequest
import ByteWaterlevel.Control.Origin
import ByteWaterlevel.Control.Duration
import ByteWaterlevel.Control.Independence
import ByteWaterlevel.Control.TimedSwitches
import ByteWaterlevel.Control.Wear
import ByteWaterlevel.WiFi.Station
import ByteWaterlevel.WiFi.Fallback
import ByteWaterlevel.WiFi.Interfaces
import ByteWaterlevel.Main
import ByteWaterlevel.WebPage.Boot
import ByteWaterlevel.Lifecycle
import ByteWaterlevel.Lifecycle.Authentication
import ByteWaterlevel.Lifecycle.OtaPassword
import ByteWaterlevel.Lifecycle.Durability
import ByteWaterlevel.Lifecycle.Isolation
import ByteWaterlevel.Session
import ByteWaterlevel.Session.Exchanges
import ByteWaterlevel.Session.Agreement
import ByteWaterlevel.Desk
import ByteWaterlevel.Desk.Settings
import ByteWaterlevel.Desk.Reload
import ByteWaterlevel.Firmware.Sampling
import ByteWaterlevel.Firmware.ColdStart
import ByteWaterlevel.Firmware.MqttStartup
import ByteWaterlevel.Firmware.RetryRate
import ByteWaterlevel.Firmware.MqttClient
import ByteWaterlevel.Firmware.Calibration
import ByteWaterlevel.Firmware.Settling
import ByteWaterlevel.Firmware.IntervalGates
import ByteWaterlevel.Firmware.Outage
import ByteWaterlevel.Firmware.Protection
import ByteWaterlevel.Firmware.Display
import ByteWaterlevel.Mqtt.Availability
import ByteWaterlevel.Mqtt.Telemetry
import ByteWaterlevel.Mqtt.Freshness
