import Menagerie.Starling.Pool.Shutdown
import Menagerie.Starling.Pool.Fifo
import Menagerie.Starling.Pull
import Menagerie.Starling.EventCount.Wakeup
import Menagerie.Elephant.Session.Hygiene
import Menagerie.Elephant.Session.Commit
import Menagerie.Elephant.Session.Returns
import Menagerie.Bowerbird.Order
import Menagerie.Bowerbird.Stability
import Menagerie.Savanna.Numbering
import Menagerie.Albatross.Server.Shutdown
import Menagerie.Spider.Latest
import Menagerie.Spider.Once
import Menagerie.Albatross.Routing.Target
import Menagerie.Albatross.Routing.Registration
import Menagerie.Albatross.Routing.Group
import Menagerie.Albatross.Form
import Menagerie.Albatross.Truncation
import Menagerie.Albatross.Splitting
import Menagerie.Albatross.Replies
import Menagerie.Crow.FileSink
import Menagerie.Elephant.Bytea
import Menagerie.Elephant.IntegerColumn
import Menagerie.Elephant.ConnectionConfig
import Menagerie.Pufferfish.Hasher
import Menagerie.Chameleon.Builder
import Menagerie.Spider.Lease
import Menagerie.Albatross.ConnectionTracker
import Menagerie.Starling.Blocking
import Menagerie.Beaver.InlineString
import Menagerie.Crow.DispatchWord
