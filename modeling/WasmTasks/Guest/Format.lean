import WasmTasks.Document.View
import WasmTasks.Guest.Description

/-!
Descriptions as documents: a table with the imports, memories, start body and functions of
the module, each of which may be missing.
-/

namespace WasmTasks

namespace ValueType

def ofDocument (document : Document) : ValueType :=
  match document.toText with
  | "i64" => i64
  | "f32" => f32
  | "f64" => f64
  | "v128" => v128
  | "funcref" => funcref
  | _ => i32

end ValueType

namespace TrapKind

def ofName : String → TrapKind
  | "div_zero" => divisionByZero
  | "overflow" => overflow
  | "conversion" => conversion
  | "oob" => outOfBounds
  | "stack" => stackOverflow
  | "indirect" => indirectCallToNull
  | "table" => tableOutOfBounds
  | _ => unreachable

end TrapKind

namespace Literal

def ofDocument : Document → Literal
  | .float value => float value
  | document => integer document.toInt

end Literal

namespace Body

/-- A body is a word, or a table with the number or numbers it works with. -/
def ofDocument (document : Document) : Body :=
  match document with
  | .text "echo" => echo
  | .text "sum" => sum
  | .text "count" => count
  | .text "bufsum" => bufferSum
  | .text "bytesum" => byteSum
  | .text "spin" => spin
  | .text word =>
      match word.splitOn ":" with
      | ["trap", name] => trap (.ofName name)
      | _ => nop
  | document =>
      if document.has "return" then constants ((document.get "return").toList.map Literal.ofDocument)
      else if document.has "alloc" then allocate (document.get "alloc").toWhole
      else if document.has "grow" then grow (document.get "grow").toWhole
      else nop

end Body

namespace MemoryDescription

def ofDocument (document : Document) : MemoryDescription :=
  ⟨(document.get "export").toText?, (document.get "pages").toNat, (document.get "max").toNat?⟩

end MemoryDescription

namespace FunctionDescription

def ofDocument (document : Document) : FunctionDescription where
  exported := (document.get "name").toText?
  params := (document.get "params").toList.map ValueType.ofDocument
  results := (document.get "results").toList.map ValueType.ofDocument
  body := .ofDocument (document.get "body")

end FunctionDescription

namespace Description

def ofDocument (document : Document) : Description where
  imports := (document.get "imports").toList.map Document.toText
  memories := (document.get "memories").toList.map MemoryDescription.ofDocument
  start := if document.has "start" then some (.ofDocument (document.get "start")) else none
  functions := (document.get "funcs").toList.map FunctionDescription.ofDocument

end Description

end WasmTasks
