import WasmTasks.Proofs.Config.RoundTrip
import WasmTasks.Proofs.Document.Spelling

/-!
A configuration can be spelt in many ways, and all its spellings are read alike. Only the backend
is no record but a choice: where an object stands for it, the name of the alternative is the one
field that the object has.
-/

namespace WasmTasks

open RecordType WasmTasks.Field

theorem BackendKind.decode_table_iff {entries : List (String × Document)} :
    BackendKind.decode .json (.table entries) = .ok .wasmtime ↔ entries = [("wasmtime", .null)] := by
  constructor
  · intro read
    obtain ⟨_, read, -⟩ := Except.map_eq_ok.mp read
    match entries with
    | [(name, document)] =>
        obtain ⟨_, checked, read⟩ := Except.bind_eq_ok.mp read
        have named : name = "wasmtime" := by
          unfold Decoder.unitVariant.checkName at checked
          split at checked
          · assumption
          · cases checked
        cases document <;> cases read
        rw [named]
  · rintro rfl
    rfl

/-- The written form of a standard configuration is made of what its omitted fields stand for. -/
theorem standard_writesDefaults (dialect : Dialect) :
    (EngineConfig.record dialect).WritesDefaults EngineConfig.standard.encode ∧
    ExpirationConfig.record.WritesDefaults ExpirationConfig.standard.encode ∧
    (∃ written, PreCacheConfig.standard.encode = .ok written ∧
      PreCacheConfig.record.WritesDefaults written) ∧
    (∃ written, CacheConfig.standard.encode = .ok written ∧
      (CacheConfig.record dialect).WritesDefaults written) ∧
    (∃ written, PluginConfig.standard.encode = .ok written ∧
      (PluginConfig.record dialect).WritesDefaults written) ∧
    IoBufferConfig.record.WritesDefaults IoBufferConfig.standard.encode ∧
    MainConfig.record.WritesDefaults MainConfig.standard.encode ∧
    ∃ written, (TaskConfig.ofModule "").encode = .ok written ∧
      (TaskConfig.record dialect).WritesDefaults written := by
  refine ⟨⟨_, rfl, ?_⟩, ⟨_, rfl, ?_⟩, ⟨_, rfl, _, rfl, ?_⟩, ⟨_, rfl, _, rfl, ?_⟩,
    ⟨_, rfl, _, rfl, ?_⟩, ⟨_, rfl, ?_⟩, ⟨_, rfl, ?_⟩, ⟨_, rfl, _, rfl, ?_⟩⟩
  all_goals
    repeat' first | exact .nil | refine .cons ⟨rfl, _, rfl, rfl⟩ ?_

/-- However a configuration is spelt, with all the records in it, it is read as the same value. -/
theorem reading_tolerates_spelling :
    (PluginConfig.record .json).Tolerates .json ∧ (TaskConfig.record .json).Tolerates .json ∧
    (TaskDescriptor.record .json).Tolerates .json ∧
    (PluginConfig.record .json).Nests .json "engine" (EngineConfig.record .json) ∧
    (PluginConfig.record .json).Nests .json "cache" (CacheConfig.record .json) ∧
    (CacheConfig.record .json).Nests .json "expiration" ExpirationConfig.record ∧
    (CacheConfig.record .json).Nests .json "preCache" PreCacheConfig.record ∧
    (TaskConfig.record .json).Nests .json "ioBuffer" IoBufferConfig.record ∧
    (TaskConfig.record .json).Nests .json "main" MainConfig.record ∧
    (TaskDescriptor.record .json).Nests .json "config" (TaskConfig.record .json) ∧
    ∀ entries, BackendKind.decode .json (.table entries) = .ok .wasmtime ↔
      entries = [("wasmtime", .null)] := by
  refine ⟨PluginConfig.regular.tolerates, TaskConfig.regular.tolerates,
    TaskDescriptor.regular.tolerates, ⟨_, .head _, .head _, holds_optional EngineConfig.regular⟩,
    ⟨_, .tail _ (.head _), .head _, holds_optional CacheConfig.regular⟩,
    ⟨_, .tail _ (.tail _ (.tail _ (.head _))), .head _, holds_optional ExpirationConfig.regular⟩,
    ⟨_, .tail _ (.tail _ (.tail _ (.tail _ (.head _)))), .head _,
      holds_optional PreCacheConfig.regular⟩,
    ⟨_, .tail _ (.head _), .head _, holds_optional IoBufferConfig.regular⟩,
    ⟨_, .tail _ (.tail _ (.head _)), .head _, holds_optional MainConfig.regular⟩,
    ⟨_, .tail _ (.head _), .head _, holds_mandatory TaskConfig.regular⟩,
    fun _ => BackendKind.decode_table_iff⟩

/-- A task is spelt with names and then without; an expiration is given its lifetime twice. -/
theorem reading_tolerates_spelling_listed :
    (TaskDescriptor.record .json).Respells .json
      (.table [("config", .table [("main", .table [("mainFuncName", .text "sum")]),
        ("modulePath", .text "sum.wasm")]), ("id", .text "first")])
      (.list [.text "first", .list [.text "sum.wasm",
        .table [("x", .null), ("size", .int 4096)], .list [.text "sum"]]]) ∧
    TaskDescriptor.decode .json (.list [.text "first", .list [.text "sum.wasm",
      .table [("x", .null), ("size", .int 4096)], .list [.text "sum"]]]) =
      .ok ⟨"first", (TaskConfig.ofModule "sum.wasm").withEntry "sum" []⟩ ∧
    (PluginConfig.record .json).Doubles .json (.table [("cache", .table [("expiration",
      .table [("entryTTL", .int 1), ("x", .null), ("entry_ttl", .int 2)])])]) ∧
    PluginConfig.decode .json (.table [("cache", .table [("expiration",
      .table [("entryTTL", .int 1), ("x", .null), ("entry_ttl", .int 2)])])]) ≠ .ok .standard := by
  obtain ⟨plugin, -, descriptor, -, cache, expiration, -, ioBuffer, main, config, -⟩ :=
    reading_tolerates_spelling
  have entry : MainConfig.record.Respells .json (.table [("mainFuncName", .text "sum")])
      (.list [.text "sum"]) := .list (.cons (by decide) .nil)
  have buffer : IoBufferConfig.record.Respells .json (.table [])
      (.table [("x", .null), ("size", .int 4096)]) :=
    .trans (.writeOut (.tail _ (.head _)) (.head _) rfl ⟨_, rfl, rfl⟩ nofun)
      (.insert (by decide))
  have standard : (TaskConfig.record .json).ReadsDefault (.optional "ioBuffer" []
      (IoBufferConfig.decode .json) fun value config => { config with ioBuffer := value })
      (.table []) := ⟨_, rfl, rfl⟩
  have listed : (TaskConfig.record .json).Respells .json
      (.table [("ioBuffer", .table [("x", .null), ("size", .int 4096)]),
        ("main", .list [.text "sum"]), ("modulePath", .text "sum.wasm")])
      (.list [.text "sum.wasm", .table [("x", .null), ("size", .int 4096)],
        .list [.text "sum"]]) :=
    .trans (.permute (((List.Perm.swap ..).cons _).trans (.swap ..)))
      (.list (.cons (.head _) (.cons (.head _) (.cons (.head _) .nil))))
  have task : (TaskConfig.record .json).Respells .json
      (.table [("main", .table [("mainFuncName", .text "sum")]), ("modulePath", .text "sum.wasm")])
      (.list [.text "sum.wasm", .table [("x", .null), ("size", .int 4096)],
        .list [.text "sum"]]) :=
    .trans (.within main entry) <|
    .trans (.writeOut (.tail _ (.head _)) (.head _) rfl standard (by decide)) <|
    .trans (.within ioBuffer buffer) listed
  have respelt : (TaskDescriptor.record .json).Respells .json
      (.table [("config", .table [("main", .table [("mainFuncName", .text "sum")]),
        ("modulePath", .text "sum.wasm")]), ("id", .text "first")])
      (.list [.text "first", .list [.text "sum.wasm",
        .table [("x", .null), ("size", .int 4096)], .list [.text "sum"]]]) :=
    .trans (.within config task) <|
    .trans (.permute (.swap ..)) (.list (.cons (.head _) (.cons (.head _) .nil)))
  have twice : (PluginConfig.record .json).Doubles .json (.table [("cache", .table [("expiration",
      .table [("entryTTL", .int 1), ("x", .null), ("entry_ttl", .int 2)])])]) :=
    .within cache (.head _) <| .within expiration (.head _) <| .here (.tail _ (.head _)) (by decide)
  exact ⟨respelt, (descriptor.respelt respelt _).mp rfl, twice, plugin.doubled twice _⟩

/-- An object that stands for the backend takes no field beside the name of the alternative, not
even one that nothing knows. -/
theorem reading_refuses_field_beside_backend :
    PluginConfig.decode .json (.table [("engine", .table [("backend",
      .table [("wasmtime", .null)])])]) = .ok .standard ∧
    ∀ config, PluginConfig.decode .json (.table [("engine", .table [("backend",
      .table [("wasmtime", .null), ("x", .null)])])]) ≠ .ok config :=
  ⟨rfl, nofun⟩

end WasmTasks
