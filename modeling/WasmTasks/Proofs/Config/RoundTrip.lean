import WasmTasks.Config.Format
import WasmTasks.Proofs.Document.Records

/-!
Every configuration whose paths are text has a written form, and is read back from it, also after its
tables were reordered, as notations that keep the keys of a table sorted do.
-/

namespace WasmTasks

open Document RecordType

variable {dialect : Dialect}

namespace Decoder

theorem readsAs_bool (value : Bool) : Decoder.bool.ReadsAs (.bool value) value :=
  readsAs_of_scalar nofun rfl

theorem readsAs_text (value : String) : Decoder.text.ReadsAs (.text value) value :=
  readsAs_of_scalar nofun rfl

theorem integer_eq_ok {name : String} {low high value : Int} (above : low ≤ value)
    (below : value ≤ high) : integer name low high (.int value) = .ok value :=
  if_pos ⟨above, below⟩

theorem readsAs_uint64 (name : String) (value : UInt64) :
    (Decoder.uint64 name).ReadsAs (.int value.toNat) value := by
  refine readsAs_of_scalar nofun ?_
  have below : (value.toNat : Int) ≤ UInt64.size - 1 := by have := value.toNat_lt_size; omega
  rw [uint64, integer_eq_ok (Int.natCast_nonneg _) below]
  simp [Except.map]

theorem readsAs_uint32 (value : UInt32) : Decoder.uint32.ReadsAs (.int value.toNat) value := by
  refine readsAs_of_scalar nofun ?_
  have below : (value.toNat : Int) ≤ UInt32.size - 1 := by have := value.toNat_lt_size; omega
  rw [uint32, integer_eq_ok (Int.natCast_nonneg _) below]
  simp [Except.map]

theorem int64_toInt (value : Int64) : Decoder.int64 (.int value.toInt) = .ok value := by
  rw [int64, integer_eq_ok value.minValue_le_toInt value.toInt_le]
  simp [Except.map]

theorem items_map {α : Type} {decode : Decoder α} {write : α → Document}
    (reads : ∀ value, decode (write value) = .ok value) (values : List α) :
    items decode (values.map write) = .ok values := by
  induction values with
  | nil => rfl
  | cons value values ih => simp [items, reads, ih, bind, Except.bind, pure, Except.pure]

theorem readsAs_args (args : List Int64) :
    (Decoder.list Decoder.int64).ReadsAs (encodeArgs args) args :=
  readsAs_of_scalar nofun (items_map int64_toInt args)

end Decoder

namespace Path

variable {path : Path} {written : Document}

theorem text?_eq_some_iff {value : String} : path.text? = some value ↔ path = .ofString value := by
  rw [text?, Text.Utf8.decode?_eq_some_iff, ofString, Path.mk.injEq, eq_comm]

theorem encode_eq_ok_iff :
    path.encode = .ok written ↔ ∃ value, path = .ofString value ∧ written = .text value := by
  simp only [← text?_eq_some_iff]
  unfold encode
  cases path.text? <;> simp [eq_comm]

theorem readsAs (encoded : path.encode = .ok written) : Path.decode.ReadsAs written path := by
  obtain ⟨value, rfl, rfl⟩ := encode_eq_ok_iff.mp encoded
  exact Decoder.readsAs_of_scalar nofun rfl

theorem readsAs_option {option : Option Path} (encoded : encodeOption option = .ok written) :
    (Decoder.option Path.decode).ReadsAs written option := by
  cases option with
  | none =>
      cases encoded
      exact Decoder.readsAs_of_scalar nofun rfl
  | some path =>
      obtain ⟨value, rfl, rfl⟩ := encode_eq_ok_iff.mp encoded
      exact Decoder.readsAs_of_scalar nofun rfl

end Path

theorem EvictionKind.readsAs (kind : EvictionKind) :
    EvictionKind.decode.ReadsAs (.text kind.name) kind :=
  Decoder.readsAs_of_scalar nofun (by cases kind <;> rfl)

theorem BackendKind.readsAs (backend : BackendKind) :
    (BackendKind.decode dialect).ReadsAs (.text backend.name) backend :=
  Decoder.readsAs_of_scalar nofun (by cases backend; rfl)

section

attribute [local simp] Field.names Field.optional Field.mandatory Field.commutes_of_sets

theorem EngineConfig.regular : (record dialect).Regular := by
  constructor <;> simp [record]

theorem ExpirationConfig.regular : record.Regular := by
  constructor <;> simp [record]

theorem PreCacheConfig.regular : record.Regular := by
  constructor <;> simp [record]

theorem CacheConfig.regular : (record dialect).Regular := by
  constructor <;> simp [record]

theorem PluginConfig.regular : (record dialect).Regular := by
  constructor <;> simp [record]

theorem IoBufferConfig.regular : record.Regular := by
  constructor <;> simp [record]

theorem MainConfig.regular : record.Regular := by
  constructor <;> simp [record]

theorem TaskConfig.regular : (record dialect).Regular := by
  constructor <;> simp [record]

theorem TaskDescriptor.regular : (record dialect).Regular := by
  constructor <;> simp [record]

end

open Decoder WasmTasks.Field

theorem EngineConfig.readsAs (config : EngineConfig) :
    (EngineConfig.decode dialect).ReadsAs config.encode config :=
  readsAs_of_gives regular dialect <|
    .cons rfl (readsAs_optional config.backend.readsAs) <|
    .cons rfl (readsAs_optional (readsAs_bool config.optimize)) .nil

theorem ExpirationConfig.readsAs (config : ExpirationConfig) :
    (ExpirationConfig.decode dialect).ReadsAs config.encode config :=
  readsAs_of_gives regular dialect <|
    .cons rfl (readsAs_optional (readsAs_bool config.enabled)) <|
    .cons rfl (readsAs_optional (readsAs_uint64 "u64" config.lifetime)) .nil

variable {written : Document}

theorem PreCacheConfig.readsAs {config : PreCacheConfig} (encoded : config.encode = .ok written) :
    (PreCacheConfig.decode dialect).ReadsAs written config := by
  obtain ⟨directory, inner, whole⟩ := Except.bind_eq_ok.mp encoded
  cases whole
  exact readsAs_of_gives regular dialect <|
    .cons rfl (readsAs_optional (readsAs_bool config.enabled)) <|
    .cons rfl (readsAs_optional (Path.readsAs_option inner)) .nil

theorem CacheConfig.readsAs {config : CacheConfig} (encoded : config.encode = .ok written) :
    (CacheConfig.decode dialect).ReadsAs written config := by
  obtain ⟨preCache, inner, whole⟩ := Except.bind_eq_ok.mp encoded
  cases whole
  exact readsAs_of_gives regular dialect <|
    .cons rfl (readsAs_optional (readsAs_bool config.enabled)) <|
    .cons rfl (readsAs_optional config.kind.readsAs) <|
    .cons rfl (readsAs_optional (readsAs_uint64 "usize" config.size)) <|
    .cons rfl (readsAs_optional config.expiration.readsAs) <|
    .cons rfl (readsAs_optional (PreCacheConfig.readsAs inner)) .nil

theorem PluginConfig.readsAs {config : PluginConfig} (encoded : config.encode = .ok written) :
    (PluginConfig.decode dialect).ReadsAs written config := by
  obtain ⟨cache, inner, whole⟩ := Except.bind_eq_ok.mp encoded
  cases whole
  exact readsAs_of_gives regular dialect <|
    .cons rfl (readsAs_optional config.engine.readsAs) <|
    .cons rfl (readsAs_optional (CacheConfig.readsAs inner)) .nil

theorem IoBufferConfig.readsAs (config : IoBufferConfig) :
    (IoBufferConfig.decode dialect).ReadsAs config.encode config :=
  readsAs_of_gives regular dialect <|
    .cons rfl (readsAs_optional (readsAs_bool config.enabled)) <|
    .cons rfl (readsAs_optional (readsAs_uint32 config.size)) <|
    .cons rfl (readsAs_optional (readsAs_text config.inputValue)) <|
    .cons rfl (readsAs_optional (readsAs_text config.allocator)) <|
    .cons rfl (readsAs_optional (readsAs_args config.args)) .nil

theorem MainConfig.readsAs (config : MainConfig) :
    (MainConfig.decode dialect).ReadsAs config.encode config :=
  readsAs_of_gives regular dialect <|
    .cons rfl (readsAs_optional (readsAs_text config.entry)) <|
    .cons rfl (readsAs_optional (readsAs_args config.args)) .nil

theorem TaskConfig.readsAs {config : TaskConfig} (encoded : config.encode = .ok written) :
    (TaskConfig.decode dialect).ReadsAs written config := by
  obtain ⟨modulePath, inner, whole⟩ := Except.bind_eq_ok.mp encoded
  cases whole
  exact readsAs_of_gives regular dialect <|
    .cons rfl (readsAs_mandatory (Path.readsAs inner)) <|
    .cons rfl (readsAs_optional config.ioBuffer.readsAs) <|
    .cons rfl (readsAs_optional config.main.readsAs) .nil

theorem TaskDescriptor.readsAs {descriptor : TaskDescriptor}
    (encoded : descriptor.encode = .ok written) :
    (TaskDescriptor.decode dialect).ReadsAs written descriptor := by
  obtain ⟨config, inner, whole⟩ := Except.bind_eq_ok.mp encoded
  cases whole
  exact readsAs_of_gives regular dialect <|
    .cons rfl (readsAs_mandatory (readsAs_text descriptor.id)) <|
    .cons rfl (readsAs_mandatory (TaskConfig.readsAs inner)) .nil

/-- This byte is in no text. -/
example : (TaskConfig.ofModule ⟨[0xff]⟩).encode = .error .pathNotText := rfl

end WasmTasks
