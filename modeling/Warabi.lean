import Warabi.Basic
import Warabi.Json.Number
import Warabi.Json.Basic
import Warabi.Json.Text
import Warabi.Json.RoundTrip
import Warabi.Collaborators
import Warabi.Provider.Basic
import Warabi.Provider.Admin
import Warabi.Provider.Construct
import Warabi.Provider.Data
import Warabi.Provider.Regions
import Warabi.Migration.Callbacks
import Warabi.Migration.Driver
import Warabi.Migration.Handover
import Warabi.Migration.Resources
import Warabi.System
import Warabi.Runs
import Warabi.Provider.Config
import Warabi.Locking
import Warabi.Requests
import Warabi.Footprint
import Warabi.Migration.Success
import Warabi.Interleaving
