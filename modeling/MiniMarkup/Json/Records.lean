import MiniMarkup.Json.Names
import MiniMarkup.Options

/-! # Records in JSON -/

namespace MiniMarkup
open Json

namespace Position

def fields : List String := ["offset", "line", "column"]

def ofJson? (json : Json) : Option Position := do
  let member ← json.record? fields
  let offset ← (member "offset").bind word?
  let line ← (member "line").bind word?
  let column ← (member "column").bind word?
  return { offset, line, column }

def toJson (position : Position) : Json :=
  .obj [("offset", .int position.offset.toNat), ("line", .int position.line.toNat),
    ("column", .int position.column.toNat)]

end Position

namespace Span

def fields : List String := ["start", "end", "source"]

def ofJson? (json : Json) : Option Span := do
  let member ← json.record? fields
  let start ← (member "start").bind Position.ofJson?
  let stop ← (member "end").bind Position.ofJson?
  let source ← (member "source").bind str?
  return { start, stop, source }

def toJson (span : Span) : Json :=
  .obj [("start", span.start.toJson), ("end", span.stop.toJson), ("source", .str span.source)]

end Span

namespace Asset

def fields : List String := ["type", "fileName", "source"]

def ofJson? (json : Json) : Option Asset := do
  let member ← json.record? fields
  let kind ← (member "type").bind Asset.Kind.ofJson?
  let fileName ← (member "fileName").bind str?
  let source ← (member "source").bind str?
  return { kind, fileName, source }

def toJson (asset : Asset) : Json :=
  .obj [("type", asset.kind.toJson), ("fileName", .str asset.fileName), ("source", .str asset.source)]

end Asset

namespace Options

def fields : List String := ["filename", "platform", "directive", "comments"]

/-- A member that is not given keeps its default. -/
def given? {α : Type} (read : Json → Option α) (default : α) : Option Json → Option α
  | none => some default
  | some json => read json

def ofJson? (json : Json) : Option Options := do
  let member ← json.record? fields
  let filename ← given? str? defaults.filename (member "filename")
  let platform ← given? Platform.ofJson? defaults.platform (member "platform")
  let customPrefix ← given? (nullable? str?) defaults.customPrefix (member "directive")
  let comments ← given? bool? defaults.comments (member "comments")
  return { filename, platform, customPrefix, comments }

def toJson (options : Options) : Json :=
  .obj [("filename", .str options.filename), ("platform", options.platform.toJson),
    ("directive", (options.customPrefix.map Json.str).getD .null), ("comments", .bool options.comments)]

end Options

end MiniMarkup
