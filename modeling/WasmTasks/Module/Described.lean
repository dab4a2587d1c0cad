import WasmTasks.Guest.Body
import WasmTasks.Module.Binary
import WasmTasks.Module.Machine
import WasmTasks.Module.Text

/-!
A machine that knows the modules of some files by their descriptions. Of other files it understands
those that hold a module without content.
-/

namespace WasmTasks

/-- A compiled module keeps the bytes that it was compiled from. -/
structure DescribedModule where
  content : Bytes
  guest : Guest Globals

namespace Description

/-- Whether the bytes are a module without content, in the binary or the text format. -/
def isContentless (content : Bytes) : Bool :=
  if BinaryModule.hasMagic content then BinaryModule.isValid content
  else
    match Text.Utf8.decode? content with
    | none => false
    | some text => TextModule.isValid text

/-- A described module is one if its description is valid. -/
def compile (known : List (Bytes × Description)) (content : Bytes) :
    Except String DescribedModule :=
  match known.lookup content with
  | some description =>
      match description.guest? with
      | some guest => .ok ⟨content, guest⟩
      | none => .error "invalid module"
  | none =>
      if isContentless content then .ok ⟨content, .empty .zero⟩ else .error "invalid module"

/-- What artifacts begin with. -/
def mark : Bytes := Text.Utf8.encode "artifact:"

def machine (known : List (Bytes × Description)) : Machine DescribedModule Globals where
  compile := compile known
  serialize module := .ok (mark ++ module.content)
  deserialize artifact :=
    if mark.isPrefixOf artifact then compile known (artifact.drop mark.length)
    else .error "not an artifact"
  guest := DescribedModule.guest

end Description

end WasmTasks
