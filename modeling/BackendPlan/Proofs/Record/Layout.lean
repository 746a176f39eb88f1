import BackendPlan.Proofs.Json.Values
import BackendPlan.Record
import Mathlib.Data.List.Pairwise

/-!
# Proofs/Record/Layout — a record does not depend on the order of its fields

An object is read in the order in which its members stand, and the error names the first one that is
wrong.  What is read when nothing is wrong does not depend on the order: a member changes the draft
in its own field, whatever the draft, so that members of different keys may trade places.

    members   —`change`→   changes of a draft   —any order→   draft

* `Layout.Fieldwise` — a layout that takes in each member as a change of its own.
* `Fieldwise.fillFrom_perm`, `Fieldwise.readObject_perm` — **the order of members makes no
  difference**.
* `Fieldwise.read_canonical` — so an object and its value are read alike.
-/

namespace BackendPlan

/-- **Sorting is a rearrangement**, where no key occurs twice — else the earlier value is lost. -/
theorem Members.ofList_perm {α : Type} {ms : Members α} (h : ms.keys.Nodup) :
    (ofList ms).Perm ms := by
  refine (List.perm_ext_iff_of_nodup ?_ ?_).2 fun m => ⟨fun hm => ?_, fun hm => ?_⟩
  · exact List.Nodup.of_map Prod.fst (sorted_ofList ms).nodup_keys
  · exact List.Nodup.of_map Prod.fst h
  · exact (mem_overlay hm).resolve_left List.not_mem_nil
  · refine mem_of_get? ?_
    rw [get?_ofList h]
    exact get?_of_mem h hm

namespace Record.Layout

variable {δ α : Type} {l : Layout δ α} {change : String → Json → Except Error (δ → δ)}

/-- **A layout takes in each member as a change of its own**: what the member is read as does not
depend on the draft, and the changes of different keys may be made in either order. -/
structure Fieldwise (l : Layout δ α) (change : String → Json → Except Error (δ → δ)) : Prop where
  set_eq : ∀ draft key value, l.set draft key value = (change key value).map fun f => f draft
  comm : ∀ {key key' value value' f g}, key ≠ key' → change key value = .ok f →
    change key' value' = .ok g → ∀ draft, f (g draft) = g (f draft)

/-- The draft with the `given` fields set, from any draft on — `fill` begins with `start`. -/
def fillFrom (l : Layout δ α) (draft : δ) (given : List (String × Json)) : Except Error δ :=
  given.foldlM (fun draft (key, value) => l.set draft key value) draft

theorem fillFrom_cons (l : Layout δ α) (draft : δ) (m : String × Json)
    (given : List (String × Json)) :
    l.fillFrom draft (m :: given) = l.set draft m.1 m.2 >>= fun draft => l.fillFrom draft given :=
  List.foldlM_cons

namespace Fieldwise

/-- A member that is read makes its change. -/
theorem fillFrom_cons_of_ok (hl : l.Fieldwise change) {key : String} {value : Json} {f : δ → δ}
    (h : change key value = .ok f) (draft : δ) (given : List (String × Json)) :
    l.fillFrom draft ((key, value) :: given) = l.fillFrom (f draft) given := by
  rw [fillFrom_cons, hl.set_eq, h]
  rfl

/-- A member that is not read ends the reading. -/
theorem fillFrom_cons_of_error (hl : l.Fieldwise change) {key : String} {value : Json}
    {cause : Error}
    (h : change key value = .error cause) (draft : δ) (given : List (String × Json)) :
    l.fillFrom draft ((key, value) :: given) = .error cause := by
  rw [fillFrom_cons, hl.set_eq, h]
  rfl

/-- A member that may be left out makes its change if it is there. -/
theorem fillFrom_toList_append {β : Type} (hl : l.Fieldwise change) {key : String}
    {value : β → Json}
    {put : β → δ → δ} (h : ∀ b, change key (value b) = .ok (put b)) (o : Option β) (draft : δ)
    (given : List (String × Json)) :
    l.fillFrom draft ((o.map fun b => (key, value b)).toList ++ given) =
      l.fillFrom (o.elim draft fun b => put b draft) given := by
  cases o with
  | none => rfl
  | some b => exact hl.fillFrom_cons_of_ok (h b) draft given

/-- **Members in another order make the same draft**, if no key occurs twice — by induction on the
permutation; two neighbours commute. -/
theorem fillFrom_perm (hl : l.Fieldwise change) {ms ns : Members Json} (hperm : ms.Perm ns)
    (hms : ms.keys.Nodup) (draft : δ) {filled : δ} :
    l.fillFrom draft ms = .ok filled ↔ l.fillFrom draft ns = .ok filled := by
  induction hperm generalizing draft with
  | nil => rfl
  | cons m _ ih =>
    obtain ⟨-, hms⟩ := List.nodup_cons.1 hms
    rw [fillFrom_cons, fillFrom_cons]
    cases l.set draft m.1 m.2 with
    | error cause => rfl
    | ok draft => exact ih hms draft
  | swap m n rest =>
    obtain ⟨key, value⟩ := m
    obtain ⟨key', value'⟩ := n
    obtain ⟨hne, -⟩ := List.ne_and_not_mem_of_not_mem_cons (List.nodup_cons.1 hms).1
    cases hn : change key' value' with
    | error cause =>
      rw [hl.fillFrom_cons_of_error hn]
      cases hm : change key value with
      | error cause' => exact iff_of_false nofun (hl.fillFrom_cons_of_error hm draft _ ▸ nofun)
      | ok f => rw [hl.fillFrom_cons_of_ok hm, hl.fillFrom_cons_of_error hn]
    | ok g =>
      rw [hl.fillFrom_cons_of_ok hn]
      cases hm : change key value with
      | error cause => rw [hl.fillFrom_cons_of_error hm, hl.fillFrom_cons_of_error hm]
      | ok f =>
        rw [hl.fillFrom_cons_of_ok hm, hl.fillFrom_cons_of_ok hm, hl.fillFrom_cons_of_ok hn,
          hl.comm (Ne.symm hne) hm hn]
  | trans hfirst _ ih ih' =>
    exact (ih hms draft).trans (ih' ((hfirst.map Prod.fst).nodup_iff.1 hms) draft)

end Fieldwise

/-! ## Fields

The fields of a layout are readers of values, each with the place of a draft where it puts what it
has read.  Different fields have different places. -/

/-- A field that reads a value by `read`, and gives it its place by `put`. -/
def field {β : Type} (read : Json → Except Error β) (put : β → δ → δ) (value : Json) :
    Except Error (δ → δ) := (read value).map put

theorem field_of_ok {β : Type} {read : Json → Except Error β} (put : β → δ → δ) {value : Json}
    {b : β}
    (h : read value = .ok b) : field read put value = .ok (put b) := congrArg (Except.map put) h

/-- Setting a draft by a field. -/
theorem set_field {β : Type} (read : Json → Except Error β) (put : β → δ → δ) (draft : δ)
    (value : Json) :
    (do return put (← read value) draft) = (field read put value).map fun f => f draft := by
  rw [field]
  cases read value <;> rfl

/-- The places of two fields are different: whatever is put there, the order makes no difference. -/
def Apart (m n : Json → Except Error (δ → δ)) : Prop :=
  ∀ value value' f g, m value = .ok f → n value' = .ok g → ∀ draft, f (g draft) = g (f draft)

theorem Apart.symm {m n : Json → Except Error (δ → δ)} (h : Apart m n) : Apart n m :=
  fun value value' f g hn hm draft => (h value' value g f hm hn draft).symm

theorem apart_field {β γ : Type} {read : Json → Except Error β} {read' : Json → Except Error γ}
    {put : β → δ → δ} {put' : γ → δ → δ}
    (h : ∀ b c draft, put b (put' c draft) = put' c (put b draft)) :
    Apart (field read put) (field read' put') := by
  intro value value' f g hf hg draft
  cases hb : read value with
  | error cause =>
    rw [field, hb] at hf
    exact absurd hf nofun
  | ok b =>
    cases hc : read' value' with
    | error cause =>
      rw [field, hc] at hg
      exact absurd hg nofun
    | ok c =>
      rw [field, hb] at hf
      rw [field, hc] at hg
      obtain rfl := Except.ok.inj hf
      obtain rfl := Except.ok.inj hg
      exact h b c draft

/-- The change that a member makes by the fields of a layout: none, if it is no field. -/
def changeBy (fields : List (String × (Json → Except Error (δ → δ)))) (key : String)
    (value : Json) :
    Except Error (δ → δ) :=
  (Members.get? fields key).elim (.ok id) (· value)

/-- **A layout of fields in different places is fieldwise** — so of each record it is left to name
the fields. -/
theorem fieldwise_of_apart {fields : List (String × (Json → Except Error (δ → δ)))}
    (hfield : ∀ m ∈ fields, ∀ draft value,
      l.set draft m.1 value = (m.2 value).map fun f => f draft)
    (hother : ∀ key ∉ Members.keys fields, ∀ draft value, l.set draft key value = .ok draft)
    (happart : fields.Pairwise fun m n => Apart m.2 n.2) : l.Fieldwise (changeBy fields) where
  set_eq draft key value := by
    rw [changeBy]
    cases hm : Members.get? fields key with
    | none =>
      refine hother key (fun hkey => ?_) draft value
      obtain ⟨m, hsome⟩ := Members.exists_get?_of_mem_keys hkey
      exact absurd (hm.symm.trans hsome) nofun
    | some m => exact hfield (key, m) (Members.mem_of_get? hm) draft value
  comm {key key' value value' f g} hne hf hg draft := by
    unfold changeBy at hf hg
    cases hm : Members.get? fields key with
    | none =>
      rw [hm] at hf
      obtain rfl := Except.ok.inj hf
      rfl
    | some m =>
      cases hn : Members.get? fields key' with
      | none =>
        rw [hn] at hg
        obtain rfl := Except.ok.inj hg
        rfl
      | some n =>
        rw [hm] at hf
        rw [hn] at hg
        have hdistinct : (key, m) ≠ (key', n) := fun h => hne (congrArg Prod.fst h)
        have : Std.Symm fun m n : String × (Json → Except Error (δ → δ)) => Apart m.2 n.2 :=
          ⟨fun _ _ h => h.symm⟩
        exact happart.forall (Members.mem_of_get? hm)
          (Members.mem_of_get? hn) hdistinct _ _ f g hf hg draft

/-! ## Records -/

theorem readObject_eq_ok_iff {members : Members Json} {a : α} :
    l.readObject members = .ok a ↔
      ∃ draft, l.fillFrom l.start members = .ok draft ∧ l.finish draft = .ok a := by
  rw [readObject, fill, ← fillFrom]
  cases l.fillFrom l.start members with
  | error cause => exact iff_of_false (by rintro ⟨⟩) (by rintro ⟨_, ⟨⟩, -⟩)
  | ok draft =>
    simp only [Except.ok.injEq, exists_eq_left']
    dsimp only [bind, Except.bind]
    cases l.finish draft with
    | error field => exact iff_of_false (by rintro ⟨⟩) (by rintro ⟨⟩)
    | ok b =>
      change Except.ok b = _ ↔ _
      rw [Except.ok.injEq, Except.ok.injEq]

/-- A list fills its fields in their declared order. -/
theorem exists_draft_of_readList {items : List Json} {a : α} (h : l.readList items = .ok a) :
    ∃ draft, l.fillFrom l.start (l.fields.zip items) = .ok draft ∧ l.finish draft = .ok a := by
  rw [readList, fill, ← fillFrom] at h
  cases hfill : l.fillFrom l.start (l.fields.zip items) with
  | error cause =>
    rw [hfill] at h
    cases h
  | ok draft =>
    refine ⟨draft, rfl, ?_⟩
    rw [hfill] at h
    dsimp only [bind, Except.bind] at h
    cases hfinish : l.finish draft with
    | error field =>
      rw [hfinish] at h
      cases h
    | ok b =>
      rw [hfinish] at h
      dsimp only at h
      split at h
      · cases h
      · exact congrArg _ (Except.ok.inj h)

/-- **Members in another order make the same record** — `fillFrom_perm`, and `finish` sees the draft
alone. -/
theorem Fieldwise.readObject_perm (hl : l.Fieldwise change) {ms ns : Members Json}
    (hperm : ms.Perm ns) (hms : ms.keys.Nodup) {a : α} :
    l.readObject ms = .ok a ↔ l.readObject ns = .ok a := by
  simp only [readObject_eq_ok_iff, hl.fillFrom_perm hperm hms]

/-- **An object without a key twice reads as its value does** — which has the same members,
sorted. -/
theorem Fieldwise.read_canonical (hl : l.Fieldwise change) {members : Members Json}
    (hkeys : members.keys.Nodup) (hvalues : Json.AreCanonicalMembers members) {a : α} :
    l.read (Json.obj members).canonical = .ok a ↔ l.read (.obj members) = .ok a := by
  rw [Json.canonical, hvalues.canonicalMembers_eq]
  exact hl.readObject_perm (Members.ofList_perm hkeys) (Members.sorted_ofList members).nodup_keys

/-! ## What reading keeps -/

/-- The field keeps the property `P` of drafts, whatever value it is given. -/
def Keeps (P : δ → Prop) (m : Json → Except Error (δ → δ)) : Prop :=
  ∀ value f draft, value.IsCanonical → m value = .ok f → P draft → P (f draft)

theorem keeps_field {P : δ → Prop} {β : Type} {read : Json → Except Error β} {put : β → δ → δ}
    (h : ∀ value b draft, value.IsCanonical → read value = .ok b → P draft → P (put b draft)) :
    Keeps P (field read put) := by
  intro value f draft hvalue hf hdraft
  cases hb : read value with
  | error cause =>
    rw [field, hb] at hf
    exact absurd hf nofun
  | ok b =>
    rw [field, hb] at hf
    obtain rfl := Except.ok.inj hf
    exact h value b draft hvalue hb hdraft

variable {fields : List (String × (Json → Except Error (δ → δ)))}

theorem Fieldwise.fillFrom_keeps (hl : l.Fieldwise (changeBy fields)) {P : δ → Prop}
    (hfields : ∀ m ∈ fields, Keeps P m.2) {given : List (String × Json)}
    (hgiven : ∀ m ∈ given, m.2.IsCanonical) {draft filled : δ} (hdraft : P draft)
    (h : l.fillFrom draft given = .ok filled) : P filled := by
  induction given generalizing draft with
  | nil =>
    obtain rfl := Except.ok.inj h
    exact hdraft
  | cons m given ih =>
    obtain ⟨hm, hgiven⟩ := List.forall_mem_cons.1 hgiven
    cases hchange : changeBy fields m.1 m.2 with
    | error cause =>
      rw [hl.fillFrom_cons_of_error hchange] at h
      exact absurd h nofun
    | ok f =>
      rw [hl.fillFrom_cons_of_ok hchange] at h
      refine ih hgiven ?_ h
      rw [changeBy] at hchange
      cases hfield : Members.get? fields m.1 with
      | none =>
        rw [hfield] at hchange
        obtain rfl := Except.ok.inj hchange
        exact hdraft
      | some field =>
        rw [hfield] at hchange
        exact hfields _ (Members.mem_of_get? hfield) m.2 f draft hm hchange hdraft

/-- **What every field keeps, a record has**, in whichever form it is read. -/
theorem Fieldwise.exists_draft (hl : l.Fieldwise (changeBy fields)) {P : δ → Prop}
    (hstart : P l.start) (hfields : ∀ m ∈ fields, Keeps P m.2) {v : Json} (hv : v.IsCanonical)
    {a : α} (h : l.read v = .ok a) : ∃ draft, P draft ∧ l.finish draft = .ok a := by
  cases v with
  | obj members =>
    obtain ⟨draft, hfill, hfinish⟩ := readObject_eq_ok_iff.1 h
    have hmembers := Json.areCanonicalMembers_iff.1 hv.2
    exact ⟨draft, hl.fillFrom_keeps hfields hmembers hstart hfill, hfinish⟩
  | arr items =>
    obtain ⟨draft, hfill, hfinish⟩ := exists_draft_of_readList h
    have hitems : ∀ m ∈ l.fields.zip items, m.2.IsCanonical := fun m hm =>
      Json.areCanonical_iff.1 hv m.2 (List.of_mem_zip hm).2
    exact ⟨draft, hl.fillFrom_keeps hfields hitems hstart hfill, hfinish⟩
  | _ => exact absurd h nofun

end Record.Layout

end BackendPlan
