import Canopy.Protobuf.TypeName
import Canopy.Protobuf.Scan
import Canopy.Protobuf.Grammar
import Canopy.Protobuf.Projection
import Canopy.Protobuf.Enum
import Canopy.Protobuf.Imports
import Canopy.Protobuf.Classify
import Canopy.Protobuf.StructCodec
import Canopy.Protobuf.MethodCodec
import Canopy.Protobuf.Sanitize
import Canopy.Protobuf.Schema
import Canopy.Protobuf.Tree
import Canopy.Main.Output
import Canopy.Websocket.Connection
