import BackendPlan.Proofs.Config.Lossless

/-!
# Proofs/Config/Shadow — extra keys with the names of typed fields

A configuration that is read has no extra key with the name of a typed field.  One that is built may
have: the extra key then **shadows** the field in what is written, while the field itself stays in
use.

    what is written at a key  =  the extra key, or else the typed field

* `OpenRecord.get?_toJson` — the law of look-up, whatever the extra keys.
* `OpenRecord.ofJson_toJson_iff` — **what is written is read back exactly if nothing is shadowed**.
* `OpenRecord.truthful_iff` — and exactly then it tells the truth as well.
* `TableConfig.extra_build`, `LogStreamConfig.extra_build`, `IdentityPoolConfig.extra_build` — the
  extra keys of a configuration built in steps.
-/

namespace BackendPlan

namespace Config

namespace OpenRecord

variable {α : Type} (R : OpenRecord α) {c : α}

/-- **No extra key shadows a typed field** — true of what is read (`Holds`), and of what is built as
long as the steps keep to it. -/
def Unshadowed (c : α) : Prop := ∀ key ∈ (R.extra c).keys, key ∉ fieldNames R.fields

variable {R}

/-- **Extra keys are looked up first** in the sorted members — they are written last, and the last
member of a key stays. -/
theorem get?_ofList_written (h : Members.Sorted (R.extra c)) (key : String) :
    Members.get? (Members.ofList (R.written c)) key =
      (Members.get? (R.extra c) key).or (Members.get? (R.typed c) key) := by
  have htyped : (R.typed c).keys.Nodup := R.keys_typed c ▸ R.nodup_names
  have hparts : Members.ofList (R.written c) =
      Members.overlay (Members.ofList (R.typed c)) (R.extra c) := List.foldl_append
  rw [hparts, Members.get?_overlay h.nodup_keys, Members.get?_ofList htyped]

/-- So it is in the value. -/
theorem get?_toJson (h : (Json.obj (R.extra c)).IsCanonical) (key : String) :
    (R.toJson c).get? key = (Members.get? (R.extra c) key).or (Members.get? (R.typed c) key) := by
  rw [toJson_eq_ofList (areCanonicalMembers_written h.2), Json.get?, get?_ofList_written h.1]

/-- An `Unshadowed` configuration holds what is `written` of it. -/
theorem Unshadowed.holds (hc : R.Unshadowed c) (h : Members.Sorted (R.extra c)) :
    R.Holds c (Members.ofList (R.written c)) := by
  constructor
  · -- both are sorted, and a key of a typed field is in neither
    refine Members.Sorted.ext h ((Members.sorted_ofList _).filter _) fun key => ?_
    rw [get?_others, get?_ofList_written h]
    split
    · next hname => exact Members.get?_eq_none_of_notMem fun hkey => hc key hkey hname
    · next hname =>
      have htyped : Members.get? (R.typed c) key = none :=
        Members.get?_eq_none_of_notMem (R.keys_typed c ▸ hname)
      rw [htyped, Option.or_none]
  · intro f hf
    have hname : f.name ∈ fieldNames R.fields := List.mem_map_of_mem hf
    have hextra : Members.get? (R.extra c) f.name = none :=
      Members.get?_eq_none_of_notMem fun hkey => hc f.name hkey hname
    obtain ⟨value, hvalue⟩ := Members.exists_get?_of_mem_keys (R.keys_typed c ▸ hname)
    rw [get?_ofList_written h, hextra, hvalue]
    rfl

/-- **What is written is read back exactly if nothing is shadowed** — a shadowed key is read as the
field, and its extra key is gone. -/
theorem ofJson_toJson_iff (h : (Json.obj (R.extra c)).IsCanonical) :
    R.ofJson (R.toJson c) = .ok c ↔ R.Unshadowed c := by
  have hwritten := toJson_eq_ofList (areCanonicalMembers_written h.2)
  constructor
  · intro hread key hkey hname
    rw [hwritten] at hread
    exact (R.holds_of_ofJson (Members.sorted_ofList _) hread).notMem_extra hname hkey
  · intro hc
    exact R.ofJson_toJson (hc.holds h.1) (hwritten ▸ Json.isCanonical_canonical _)

/-- **What is written tells the truth exactly if nothing is shadowed** — it has the typed fields as
they are in use, and is read back. -/
theorem truthful_iff (h : (Json.obj (R.extra c)).IsCanonical) :
    ((∀ m ∈ R.typed c, (R.toJson c).get? m.1 = some m.2) ∧ R.ofJson (R.toJson c) = .ok c) ↔
      R.Unshadowed c := by
  refine ⟨fun ht => (ofJson_toJson_iff h).1 ht.2, fun hc => ⟨fun m hm => ?_, ?_⟩⟩
  · have hkey : m.1 ∈ (R.typed c).keys := List.mem_map_of_mem hm
    have hname : m.1 ∈ fieldNames R.fields := R.keys_typed c ▸ hkey
    have hextra : Members.get? (R.extra c) m.1 = none :=
      Members.get?_eq_none_of_notMem fun hmem => hc m.1 hmem hname
    rw [get?_toJson h, hextra, Option.none_or]
    exact Members.get?_of_mem (R.keys_typed c ▸ R.nodup_names) hm
  · exact (ofJson_toJson_iff h).2 hc

end OpenRecord

/-! ## Building

Only the steps that give an extra key reach the extra keys, and the last one for a key stays. -/

/-- The `extra` members after steps, of which each gives at most one. -/
theorem extra_foldl {α σ : Type} {apply : α → σ → α} {extra : α → Members Json}
    {extra? : σ → Option (String × Json)}
    (hstep : ∀ c s, extra (apply c s) = Members.overlay (extra c) (extra? s).toList)
    (steps : List σ) (c : α) :
    extra (steps.foldl apply c) = Members.overlay (extra c) (steps.filterMap extra?) := by
  induction steps generalizing c with
  | nil => rfl
  | cons s steps ih =>
    rw [List.foldl_cons, ih, hstep, List.filterMap_cons]
    cases extra? s <;> rfl

end Config

/-- The extra key that a step gives — the last one for a key stays, whatever its name. -/
def TableConfig.Setting.extra? : TableConfig.Setting → Option (String × Json)
  | extra key value => some (key, value)
  | _ => none

/-- The extra key that a step gives. -/
def LogStreamConfig.Setting.extra? : LogStreamConfig.Setting → Option (String × Json)
  | extra key value => some (key, value)
  | _ => none

/-- The extra key that a step gives. -/
def IdentityPoolConfig.Setting.extra? : IdentityPoolConfig.Setting → Option (String × Json)
  | extra key value => some (key, value)
  | _ => none

theorem TableConfig.extra_build (name : String) (settings : List Setting) :
    (build name settings).extra = Members.ofList (settings.filterMap Setting.extra?) :=
  Config.extra_foldl (fun _ s => by cases s <;> rfl) settings _

theorem LogStreamConfig.extra_build (name : String) (settings : List Setting) :
    (build name settings).extra = Members.ofList (settings.filterMap Setting.extra?) :=
  Config.extra_foldl (fun _ s => by cases s <;> rfl) settings _

theorem IdentityPoolConfig.extra_build (name : String) (settings : List Setting) :
    (build name settings).extra = Members.ofList (settings.filterMap Setting.extra?) :=
  Config.extra_foldl (fun _ s => by cases s <;> rfl) settings _

end BackendPlan
