import NetLL.Server.Decoding
import NetLL.Server.Indeterminate
import NetLL.Server.Oversize
import NetLL.Server.PartialBody
import NetLL.Server.Lifecycle
import NetLL.Server.Agreement
import NetLL.Server.Encoding
import NetLL.Server.Restart
import NetLL.Server.Method
import NetLL.Server.TooLarge
import NetLL.Server.Independence
import NetLL.Server.Delivery
import NetLL.Server.Bounds
import NetLL.Server.Isolation
import NetLL.Exchange
import NetLL.Client.StaleBuffer
import NetLL.Client.Download
import NetLL.Client.Transfer
import NetLL.Client.UrlParts
import NetLL.Client.SplitUrl
import NetLL.Client.Storage
import NetLL.WiFi.Freshness
import NetLL.WiFi.AccessPoint
import NetLL.WiFi.Report
import NetLL.WiFi.ScanResults
import NetLL.WiFi.ScanState
import NetLL.WiFi.Duplicates
import NetLL.WiFi.Shutdown
import NetLL.WiFi.Configuration
import NetLL.WiFi.FailedScan
import NetLL.Fetch
import NetLL.Server.Descriptors
import NetLL.Server.ListeningSocket
import NetLL.Client.Resources
import NetLL.WiFi.Radio
import NetLL.Portal
import NetLL.Dhcp.Overrun
import NetLL.Client.Deadline
import NetLL.WiFi.Sockets
import NetLL.WiFi.Serving
