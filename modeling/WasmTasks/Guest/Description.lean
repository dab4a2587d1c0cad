import WasmTasks.Guest.Value
import WasmTasks.Number.Binary

/-!
Modules described by what their functions do, and which of the descriptions are of modules. A
description lists imports, memories, an optional start function and functions; the exports are the
named memories in order, then the named functions.
-/

namespace WasmTasks

inductive Literal where
  | integer (n : Int)
  | float (value : Number.Double)
  deriving DecidableEq, Repr

namespace Literal

/-- Whether the number can be a constant of the type. A constant of an integer type is written
without a fraction, with or without a sign. -/
def fits (literal : Literal) (type : ValueType) : Bool :=
  match type, literal with
  | .i32, integer n => Int32.minValue.toInt ≤ n && n < UInt32.size
  | .i64, integer n => Int64.minValue.toInt ≤ n && n < UInt64.size
  | .i32, float _ => false
  | .i64, float _ => false
  | _, _ => true

end Literal

inductive TrapKind where
  | unreachable
  | divisionByZero
  | overflow
  | conversion
  | outOfBounds
  | stackOverflow
  | indirectCallToNull
  | tableOutOfBounds
  deriving DecidableEq, Repr

inductive Body where
  | nop
  | constants (values : List Literal)
  | echo
  | sum
  | count
  | allocate (offset : Int)
  | bufferSum
  | byteSum
  | grow (pages : Int)
  | spin
  | trap (kind : TrapKind)
  deriving DecidableEq, Repr

structure MemoryDescription where
  exported : Option String
  pages : Nat
  limit : Option Nat
  deriving DecidableEq, Repr

structure FunctionDescription where
  exported : Option String
  params : List ValueType
  results : List ValueType
  body : Body
  deriving DecidableEq, Repr

structure Description where
  imports : List String
  memories : List MemoryDescription
  start : Option Body
  functions : List FunctionDescription
  deriving DecidableEq, Repr

namespace MemoryDescription

/-- No memory has more pages than 32-bit addresses can reach. -/
def mostPages : Nat := 65536

def limitPages (memory : MemoryDescription) : Nat :=
  memory.limit.getD mostPages

def isValid (memory : MemoryDescription) : Bool :=
  memory.pages ≤ memory.limitPages && memory.limitPages ≤ mostPages

end MemoryDescription

namespace Body

/-- Whether there is a constant for every result; what is left over counts for nothing. -/
def admitConstants : List ValueType → List Literal → Bool
  | [], _ => true
  | _ :: _, [] => false
  | type :: types, literal :: rest => literal.fits type && admitConstants types rest

/-- Integers of both sizes can be added up in either size, floats only in their own. -/
def admitsSum (params : List ValueType) : List ValueType → Bool
  | [result] =>
      if result.isInteger then params.all ValueType.isInteger
      else result.isFloat && params.all (· = result)
  | _ => false

/-- Whether a function of this type can have this body in a module with or without a memory. -/
def fits (body : Body) (params results : List ValueType) (hasMemory : Bool) : Bool :=
  match body with
  | nop => results.isEmpty
  | constants values => admitConstants results values
  | echo => params = results
  | sum => admitsSum params results
  | count => results = [.i32]
  | allocate offset =>
      results.length = 1 && admitConstants results [.integer offset]
        && (params.isEmpty || params.head? = some .i32)
  | bufferSum => results = [.i32] && hasMemory
  | byteSum => params.take 2 = [.i32, .i32] && results = [.i32] && hasMemory
  | grow pages => results = [.i32] && (Literal.integer pages).fits .i32 && hasMemory
  | spin => true
  | trap .outOfBounds => hasMemory
  | trap _ => true

end Body

namespace FunctionDescription

/-- A function has at most so many parameters, and at most so many results. -/
def mostValues : Nat := 1000

def isValid (function : FunctionDescription) (hasMemory : Bool) : Bool :=
  function.params.length ≤ mostValues && function.results.length ≤ mostValues
    && function.body.fits function.params function.results hasMemory

end FunctionDescription

namespace Description

def mostMemories : Nat := 100

/-- Names are bounded in length. -/
def longestName : Nat := 100000

def exportNames (description : Description) : List String :=
  description.memories.filterMap MemoryDescription.exported
    ++ description.functions.filterMap FunctionDescription.exported

def hasMemory (description : Description) : Bool :=
  !description.memories.isEmpty

def isValid (description : Description) : Bool :=
  description.exportNames.Nodup
    && (description.imports ++ description.exportNames).all
      (fun name => name.utf8ByteSize ≤ longestName)
    && description.memories.length ≤ mostMemories
    && description.memories.all MemoryDescription.isValid
    && description.functions.all (fun function => function.isValid description.hasMemory)
    && (match description.start with
      | none => true
      | some body => body.fits [] [] description.hasMemory)

end Description

end WasmTasks
