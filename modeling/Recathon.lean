import Recathon.Engine.Ident
import Recathon.Engine.Db
import Recathon.Builder.Request
import Recathon.Builder.Similarity
import Recathon.Builder.Skeleton
import Recathon.Builder.Create
import Recathon.Destroy.CellList
import Recathon.Destroy.Drop
import Recathon.Store.Registry
import Recathon.Store.Build
import Recathon.Store.Destroy
import Recathon.Store.Lifecycle
import Recathon.Store.Complete
import Recathon.Store.Invariant
import Recathon.Text.Digits
import Recathon.Text.Literal
import Recathon.Text.Statement
import Recathon.Store.IndexTable
import Recathon.Store.Names
import Recathon.Store.Order
import Recathon.Text.Buffer
import Recathon.Text.CellBuffer
import Recathon.Text.DropBuffer
import Recathon.Utility.Process
import Recathon.Store.Session
