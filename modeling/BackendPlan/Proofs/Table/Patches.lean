import BackendPlan.Proofs.Session.Effects
import BackendPlan.Proofs.Table.Keys

/-!
# Proofs/Table/Patches — two patches of one item are one patch

An update lays a patch over the item under its key, and an update after it another one:

    item  —`patch`→  patched item  —`data`→  item   =   item  —`merge patch data`→  item.

A look-up asks the last patch first, so both sides have the same fields; they are the same object
because members are kept in the order of their keys, which they are if what was stored was given in
that order.

* `Items.merge_merge` — **the law for one item**, be it an object or not.
* `Ledger.Each.inOrder_replay` — stored objects are in order.
* `Table.alike_update_update` — so two updates of a key lead to the state that one leads to.
-/

namespace BackendPlan

/-! ## Objects in order -/

/-- **Overlays compose**, for members in order — both sides have the same look-ups, and sorted
members are told by these. -/
theorem Members.overlay_overlay {α : Type} {base patch : Members α} (hbase : Sorted base)
    (hpatch : Sorted patch) (later : Members α) :
    overlay (overlay base patch) later = overlay base (overlay patch later) := by
  have hboth : Sorted (overlay patch later) := hpatch.overlay later
  refine ((hbase.overlay patch).overlay later).ext (hbase.overlay _) fun key => ?_
  calc get? (overlay (overlay base patch) later) key
      = (last? later key).or ((last? patch key).or (get? base key)) := by
        rw [get?_overlay_eq_last?, get?_overlay_eq_last?]
    _ = ((last? later key).or (get? patch key)).or (get? base key) := by
        rw [last?_eq_get? hpatch.nodup_keys, Option.or_assoc]
    _ = (get? (overlay patch later) key).or (get? base key) := by
        rw [get?_overlay_eq_last?]
    _ = get? (overlay base (overlay patch later)) key := by
        rw [get?_overlay hboth.nodup_keys]

/-- The members of an object are in the order of their keys — at the top alone, which is where
`merge` works. -/
def Json.InOrder : Json → Prop
  | .obj members => Members.Sorted members
  | _ => True

theorem Json.IsCanonical.inOrder {v : Json} (h : v.IsCanonical) : v.InOrder := by
  cases v with
  | obj members => exact h.1
  | _ => trivial

theorem Items.inOrder_merge {item data : Json} (hitem : item.InOrder) (hdata : data.InOrder) :
    (merge item data).InOrder := by
  unfold merge
  split
  · exact Members.Sorted.overlay hitem _
  · exact hdata

/-- **A patch after a patch is the second laid over the first** — whatever the item is, since what
is no object is replaced. -/
theorem Items.merge_merge {item : Json} {patch : Members Json} (hitem : item.InOrder)
    (hpatch : Members.Sorted patch) (data : Json) :
    merge (merge item (.obj patch)) data = merge item (merge (.obj patch) data) := by
  cases item with
  | obj members =>
    cases data with
    | obj later => exact congrArg Json.obj (Members.overlay_overlay hitem hpatch later)
    | _ => rfl
  | _ => rfl

/-! ## Stored items -/

/-- What is made of parts is made when the parts are. -/
theorem Payload.exists_of_bind_eq_ok {α : Type} {parts : Except Error α} {f : α → Json}
    {item : Json}
    (h : (do return f (← parts)) = Except.ok item) : ∃ made, parts = .ok made ∧ f made = item := by
  cases parts with
  | error cause => exact absurd h nofun
  | ok made => exact ⟨made, rfl, Except.ok.inj h⟩

/-- What data encodes to is in order, if what is JSON already is — the encoder inserts members one
by one. -/
theorem Payload.inOrder_of_encode {data : Payload} {item : Json}
    (hjson : ∀ v, data = .json v → v.InOrder) (h : data.encode = .ok item) : item.InOrder := by
  cases data with
  | json v =>
    obtain rfl : v = item := Except.ok.inj ((encode_json v).symm.trans h)
    exact hjson v rfl
  | object _ | numbered _ =>
    rw [encode] at h
    obtain ⟨members, -, rfl⟩ := exists_of_bind_eq_ok h
    exact Members.sorted_ofList members
  | list _ =>
    rw [encode] at h
    obtain ⟨items, -, rfl⟩ := exists_of_bind_eq_ok h
    trivial
  | int n =>
    rw [encode] at h
    split at h
    · exact Except.ok.inj h ▸ trivial
    · cases h
  | float _ | nonFinite =>
    rw [encode] at h
    exact Except.ok.inj h ▸ trivial
  | unkeyable | failing _ =>
    rw [encode] at h
    cases h

/-- The call gives JSON values, where it gives JSON — sorted all the way down (`IsCanonical`), as a
JSON map always is. -/
def Table.Call.GivesValues : Table.Call → Prop
  | put (.json v) => v.IsCanonical
  | update _ data => data.IsCanonical
  | put _ | delete _ | get _ | scan => True

theorem Table.Call.inOrder_result {call : Table.Call} (hgiven : call.GivesValues)
    {stored : Option Json} (hstored : ∀ old, stored = some old → old.InOrder) {item : Json}
    (h : call.result stored = some item) : item.InOrder := by
  cases call with
  | put data =>
    refine Payload.inOrder_of_encode (fun v hv => ?_) (result_put_eq_some_iff.1 h)
    subst hv
    exact Json.IsCanonical.inOrder hgiven
  | update key data =>
    obtain ⟨old, hold, rfl⟩ := Option.map_eq_some_iff.1 h
    exact Items.inOrder_merge (hstored old hold) (Json.IsCanonical.inOrder hgiven)
  | delete key => exact absurd h.symm (Option.some_ne_none item)
  | get key | scan => exact hstored item h

/-- **Calls that give values leave every item in order** — by `Each.replay`. -/
theorem Ledger.Each.inOrder_replay {ledger : Ledger} (h : ledger.Each fun _ item => item.InOrder)
    {accesses : List Access} (hvalues : ∀ access ∈ accesses, access.call.GivesValues) :
    (ledger.replay accesses).2.Each fun _ item => item.InOrder := by
  refine h.replay fun past access future hsplit hpast key item _ hitem => ?_
  exact Table.Call.inOrder_result (hvalues access (hsplit ▸ List.mem_append_cons_self))
    (fun old hold => hpast key.text old hold) hitem

/-! ## Two updates -/

/-- Two changes of one item are one. -/
theorem Ledger.change_change {ledger : Ledger} {key : String} {f g both : Json → Json}
    (h : ∀ item, ledger.get? key = some item → g (f item) = both item) :
    (ledger.change key f).change key g = ledger.change key both := by
  induction ledger with
  | nil => rfl
  | cons pair rest ih =>
    obtain ⟨k, v⟩ := pair
    by_cases hk : k = key
    · subst hk
      have hv : g (f v) = both v := h v (by rw [get?_cons, if_pos rfl])
      rw [change, if_pos rfl, change, if_pos rfl, change, if_pos rfl, hv]
    · rw [change, if_neg hk, change, if_neg hk, change, if_neg hk, ih]
      exact fun item hitem => h item (by rwa [get?_cons, if_neg (Ne.symm hk)])

/-- **An update after an update is one update** with the second patch laid over the first —
`Items.merge_merge`, at the item of the key. -/
theorem Ledger.Each.serve_update_update {ledger : Ledger}
    (h : ledger.Each fun _ item => item.InOrder) (partitionKey : String) (key : Json)
    {patch : Members Json} (hpatch : Members.Sorted patch) (data : Json) :
    ((ledger.serve partitionKey (.update key (.obj patch))).2.serve partitionKey
        (.update key data)).2 =
      (ledger.serve partitionKey (.update key (Items.merge (.obj patch) data))).2 := by
  by_cases hkey : key = .null
  · simp only [Ledger.serve, if_pos hkey]
  · simp only [Ledger.serve, if_neg hkey]
    exact change_change fun item hitem => Items.merge_merge (h _ _ hitem) hpatch data

namespace Table

variable {t : Table} {w : Workspace}

/-- **Two workspaces are in one state**: the table has the same items in the same order, every other
object the same content, and the same was reported. -/
structure Alike (t : Table) (w w' : Workspace) : Prop where
  order : (t.items w).order = (t.items w').order
  scan : t.scan w = t.scan w'
  get? : ∀ key, t.get? key w = t.get? key w'
  size : t.size w = t.size w'
  others : ∀ r, (Resource.table t).sameAs r = false → w.contents.content r = w'.contents.content r
  journal : w.journal = w'.journal

/-- `update` reports nothing. -/
theorem journal_update (t : Table) (key data : Json) (w : Workspace) :
    (t.update key data w).journal = w.journal := by
  rw [update]
  split <;> rfl

/-- **Patches compose** — the table by `serve_update_update`, the rest because an update reaches
nothing else. -/
theorem alike_update_update {ledger : Ledger} (h : w.Holds t.id ledger)
    (hvalues : ledger.Each fun _ item => item.InOrder) (key : Json) {patch : Members Json}
    (hpatch : Members.Sorted patch) (data : Json) :
    t.Alike (t.update key data (t.update key (.obj patch) w))
      (t.update key (Items.merge (.obj patch) data) w) := by
  have htwo := (h.serve_self (.update key (.obj patch))).2.serve_self (.update key data) |>.2.shows
  have hone := (h.serve_self (.update key (Items.merge (.obj patch) data))).2.shows
  rw [hvalues.serve_update_update _ key hpatch data] at htwo
  exact {
    order := htwo.order.trans hone.order.symm
    scan := htwo.scan.trans hone.scan.symm
    get? := fun given => (htwo.get? given).trans (hone.get? given).symm
    size := htwo.size.trans hone.size.symm
    others := fun r hr => by
      have hother := fun data w => t.content_serve_of_ne (.update key data) w hr
      exact (hother _ _).trans ((hother _ _).trans (hother _ _).symm)
    journal := (t.journal_update ..).trans
      ((t.journal_update ..).trans (t.journal_update ..).symm) }

end Table

end BackendPlan
