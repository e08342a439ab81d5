import MiniMarkup.Asset.Basic
import MiniMarkup.Fault
import MiniMarkup.Json.Basic
import MiniMarkup.Platform

/-! # Enumerations in JSON -/

namespace MiniMarkup
open Json

namespace Platform

def names (platform : Platform) : List String :=
  [platform.name, "mp-" ++ platform.name]

def ofJson? : Json → Option Platform := oneOf? all names

def toJson (platform : Platform) : Json := .str platform.name

end Platform

namespace Asset.Kind

def ofJson? : Json → Option Asset.Kind := oneOf? all ([·.name])

def toJson (kind : Asset.Kind) : Json := .str kind.name

end Asset.Kind

namespace Conditional.Kind

def ofJson? : Json → Option Conditional.Kind := oneOf? all ([·.name])

def toJson (kind : Conditional.Kind) : Json := .str kind.name

end Conditional.Kind

namespace Node.Kind

def ofJson? : Json → Option Node.Kind := oneOf? all ([·.name])

def toJson (kind : Node.Kind) : Json := .str kind.name

end Node.Kind

namespace Fault.Kind

def ofJson? : Json → Option Fault.Kind := oneOf? all ([·.name])

def toJson (kind : Fault.Kind) : Json := .str kind.name

end Fault.Kind

namespace Directive.Kind

/-- Only a directive outside the fixed list holds anything: its own name. -/
def ofJson? : Json → Option Directive.Kind
  | .obj [("custom", .str name)] => some (.custom name)
  | json => oneOf? fixed ([·.name]) json

def toJson : Directive.Kind → Json
  | custom name => .obj [("custom", .str name)]
  | kind => .str kind.name

end Directive.Kind

end MiniMarkup
