import BackendPlan.Config
import BackendPlan.Proofs.Config.OpenRecord

/-!
# Proofs/Config/Lossless — the four configurations are open records

Each configuration is an open record with its own fields and defaults, and that is all that has to
be shown of it: where each typed field goes, what it refuses, and that any other key is kept.

* `AppConfig.record`, `TableConfig.record`, `LogStreamConfig.record`, `IdentityPoolConfig.record` —
  the configurations as open records.
* `Config.configurations_lossless` — **configurations are read and written back without loss.**
-/

namespace BackendPlan

open Config

namespace AppConfig

/-- The typed fields of an application, with their types and defaults. -/
def fields : List Field :=
  [⟨"name", .text, .str ""⟩, ⟨"stage", .optionalText, .null⟩, ⟨"region", .optionalText, .null⟩]

def typedFields : List String := fieldNames fields

/-- **The configuration of an application is an open record** — its extra keys are the `options`. -/
def record : OpenRecord AppConfig where
  name := "AppConfig"
  fields := fields
  start := {}
  set := set
  typed := typed
  extra := options
  nodup_names := by decide
  keys_typed _ := rfl
  accepts_typed c := by simp [fields, typed]
  typed_start := rfl
  extra_start := rfl
  set_field c value := by
    simp only [fields, List.forall_mem_cons, set]
    refine ⟨takes_text ?_ ?_, takes_optionalText ?_ ?_, takes_optionalText ?_ ?_, nofun⟩ <;>
      simp [typed, Members.replace]
  set_other := by
    intro key hkey c value
    refine ⟨{ c with options := Members.insert key value c.options }, ?_, rfl, rfl⟩
    unfold set
    split <;> first | rfl | exact absurd (by decide) hkey
  ext := by
    rintro ⟨⟩ ⟨⟩ htyped hextra
    simp_all [typed, optionalText_injective.eq_iff]

end AppConfig

namespace TableConfig

/-- The typed fields of a table — the partition key is `id` where none is given. -/
def fields : List Field :=
  [⟨"name", .text, .str ""⟩, ⟨"partition_key", .text, .str "id"⟩,
    ⟨"sort_key", .optionalText, .null⟩, ⟨"encryption", .flag, .bool true⟩,
    ⟨"backups", .flag, .bool true⟩, ⟨"ttl", .optionalText, .null⟩]

def typedFields : List String := fieldNames fields

/-- **The configuration of a table is an open record** — typed fields beside `extra` keys. -/
def record : OpenRecord TableConfig where
  name := "TableConfig"
  fields := fields
  start := {}
  set := set
  typed := typed
  extra := extra
  nodup_names := by decide
  keys_typed _ := rfl
  accepts_typed c := by simp [fields, typed]
  typed_start := rfl
  extra_start := rfl
  set_field c value := by
    simp only [fields, List.forall_mem_cons, set]
    refine ⟨takes_text ?_ ?_, takes_text ?_ ?_, takes_optionalText ?_ ?_, takes_flag ?_ ?_,
      takes_flag ?_ ?_, takes_optionalText ?_ ?_, nofun⟩ <;>
      simp [typed, Members.replace]
  set_other := by
    intro key hkey c value
    refine ⟨{ c with extra := Members.insert key value c.extra }, ?_, rfl, rfl⟩
    unfold set
    split <;> first | rfl | exact absurd (by decide) hkey
  ext := by
    rintro ⟨⟩ ⟨⟩ htyped hextra
    simp_all [typed, optionalText_injective.eq_iff]

end TableConfig

namespace LogStreamConfig

/-- The typed fields of a log stream. -/
def fields : List Field :=
  [⟨"name", .text, .str ""⟩, ⟨"retention", .text, .str "7d"⟩, ⟨"encryption", .flag, .bool true⟩]

def typedFields : List String := fieldNames fields

/-- **The configuration of a log stream is an open record.** -/
def record : OpenRecord LogStreamConfig where
  name := "LogStreamConfig"
  fields := fields
  start := {}
  set := set
  typed := typed
  extra := extra
  nodup_names := by decide
  keys_typed _ := rfl
  accepts_typed c := by simp [fields, typed]
  typed_start := rfl
  extra_start := rfl
  set_field c value := by
    simp only [fields, List.forall_mem_cons, set]
    refine ⟨takes_text ?_ ?_, takes_text ?_ ?_, takes_flag ?_ ?_, nofun⟩ <;>
      simp [typed, Members.replace]
  set_other := by
    intro key hkey c value
    refine ⟨{ c with extra := Members.insert key value c.extra }, ?_, rfl, rfl⟩
    unfold set
    split <;> first | rfl | exact absurd (by decide) hkey
  ext := by
    rintro ⟨⟩ ⟨⟩ htyped hextra
    simp_all [typed]

end LogStreamConfig

namespace IdentityPoolConfig

/-- The typed fields of an identity pool. -/
def fields : List Field :=
  [⟨"name", .text, .str ""⟩, ⟨"mfa", .flag, .bool false⟩,
    ⟨"password_policy", .text, .str "strong"⟩, ⟨"token_ttl", .text, .str "1h"⟩]

def typedFields : List String := fieldNames fields

/-- **The configuration of an identity pool is an open record.** -/
def record : OpenRecord IdentityPoolConfig where
  name := "IdentityPoolConfig"
  fields := fields
  start := {}
  set := set
  typed := typed
  extra := extra
  nodup_names := by decide
  keys_typed _ := rfl
  accepts_typed c := by simp [fields, typed]
  typed_start := rfl
  extra_start := rfl
  set_field c value := by
    simp only [fields, List.forall_mem_cons, set]
    refine ⟨takes_text ?_ ?_, takes_flag ?_ ?_, takes_text ?_ ?_, takes_text ?_ ?_, nofun⟩ <;>
      simp [typed, Members.replace]
  set_other := by
    intro key hkey c value
    refine ⟨{ c with extra := Members.insert key value c.extra }, ?_, rfl, rfl⟩
    unfold set
    split <;> first | rfl | exact absurd (by decide) hkey
  ext := by
    rintro ⟨⟩ ⟨⟩ htyped hextra
    simp_all [typed]

end IdentityPoolConfig

namespace Config

/-- **Configurations are read and written back without loss** — each with its own typed fields, by
`OpenRecord.lossless` of its record. -/
theorem configurations_lossless (v : Json) (hv : v.IsCanonical) :
    Lossless AppConfig.fields AppConfig.ofJson AppConfig.options AppConfig.toJson AppConfig.text v ∧
    Lossless TableConfig.fields TableConfig.ofJson TableConfig.extra TableConfig.toJson
      TableConfig.text v ∧
    Lossless LogStreamConfig.fields LogStreamConfig.ofJson LogStreamConfig.extra
      LogStreamConfig.toJson LogStreamConfig.text v ∧
    Lossless IdentityPoolConfig.fields IdentityPoolConfig.ofJson IdentityPoolConfig.extra
      IdentityPoolConfig.toJson IdentityPoolConfig.text v :=
  ⟨AppConfig.record.lossless hv, TableConfig.record.lossless hv, LogStreamConfig.record.lossless hv,
    IdentityPoolConfig.record.lossless hv⟩

/-- The configuration of a table of orders, with a key `billing` that only its provider knows. -/
def orders : Json :=
  .obj [("billing", .obj [("mode", .str "PAY_PER_REQUEST")]), ("name", .str "orders"),
    ("partition_key", .str "order_id"), ("ttl", .null)]

theorem configurations_lossless_of_orders :
    ∃ c, TableConfig.ofJson orders = .ok c ∧
      c.extra = [("billing", .obj [("mode", .str "PAY_PER_REQUEST")])] ∧
      Json.ofText? c.text = some c.toJson ∧ TableConfig.ofJson c.toJson = .ok c := by
  have hv : orders.IsCanonical := by
    refine ⟨?_, ⟨⟨?_, trivial, trivial⟩, trivial, trivial, trivial, trivial⟩⟩ <;>
      simp only [Members.Sorted] <;> decide
  have hlossless := (configurations_lossless orders hv).2.1
  have hread : TableConfig.ofJson orders = .ok
      { name := "orders", partitionKey := "order_id",
        extra := [("billing", .obj [("mode", .str "PAY_PER_REQUEST")])] } := rfl
  obtain ⟨doc, -, -, -, htext⟩ := hlossless.text_eq hread
  exact ⟨_, hread, rfl, htext, hlossless.ofJson_toJson hread⟩

end Config

end BackendPlan
