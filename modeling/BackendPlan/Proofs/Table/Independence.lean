import BackendPlan.Proofs.Table.Patches

/-!
# Proofs/Table/Independence — calls on different keys do not see each other

A call looks at the item under its key and at nothing else, so two calls that go by different keys
do not see each other.  The order of the keys is all they share: two calls that both append a key
leave the two in the order of the calls, and any other two leave one and the same ledger.

* `Table.Call.arrange_comm` — unless both append, calls arrange the keys alike in either order.
* `Ledger.serve_comm` — **so they lead to one ledger.**
* `Workspace.Holds.independent` — and to one and the same of all that a table shows.
* `Session.table_calls_independent` — in every state that a table reaches, beside the law of
  patches.
-/

namespace BackendPlan

namespace Table.Call

/-! ## Arranging keys -/

/-- The call changes items, or tries to: `put`, `update` and `delete`. -/
def IsWrite : Call → Prop
  | put _ | update .. | delete _ => True
  | get _ | scan => False

/-- **The calls go by different keys**: a call without a key changes nothing, so it is apart from
every other. -/
def Apart (partitionKey : String) (first second : Call) : Prop :=
  ∀ a, first.key? partitionKey = some a → ∀ b, second.key? partitionKey = some b → ¬ a.Same b

theorem Apart.symm {partitionKey : String} {first second : Call}
    (h : first.Apart partitionKey second) : second.Apart partitionKey first :=
  fun b hb a ha hsame => h a ha b hb (Json.same_comm.1 hsame)

/-- Different keys have different texts — the text of a value gives the value back. -/
theorem Apart.text_ne {partitionKey : String} {first second : Call}
    (h : first.Apart partitionKey second) {a b : Json} (ha : first.key? partitionKey = some a)
    (hb : second.key? partitionKey = some b) : a.text ≠ b.text :=
  mt Json.same_of_text_eq (h a ha b hb)

/-- The call lists a key that was not listed — of the three that write, `put` alone does. -/
def Appends (key : String) (keys : List String) : Call → Prop
  | put _ => key ∉ keys
  | update .. | delete _ | get _ | scan => False

variable {j k : String}

theorem mem_arrange_of_ne (call : Call) (hne : j ≠ k) (keys : List String) :
    j ∈ call.arrange k keys ↔ j ∈ keys := by
  cases call with
  | put data =>
    rw [arrange]
    split
    · rfl
    · rw [List.mem_append, List.mem_singleton, or_iff_left hne]
  | delete key => rw [arrange, List.mem_filter, and_iff_left (decide_eq_true hne)]
  | update key data | get key | scan => rfl

theorem filter_arrange (call : Call) (hne : j ≠ k) (keys : List String) :
    call.arrange k (keys.filter (· ≠ j)) = (call.arrange k keys).filter (· ≠ j) := by
  cases call with
  | put data =>
    have hmem : k ∈ keys.filter (· ≠ j) ↔ k ∈ keys := by
      rw [List.mem_filter, and_iff_left (decide_eq_true hne.symm)]
    rw [arrange, arrange]
    by_cases hk : k ∈ keys
    · rw [if_pos hk, if_pos (hmem.2 hk)]
    · rw [if_neg hk, if_neg (mt hmem.1 hk), List.filter_append,
        List.filter_singleton, decide_eq_true hne.symm, cond_true]
  | delete key => exact List.filter_comm ..
  | update key data | get key | scan => rfl

/-- What `Appends` no key arranges the keys alike before and after another call. -/
theorem arrange_comm_of_not_appends {first : Call} (second : Call) (hne : j ≠ k)
    {keys : List String} (h : ¬ first.Appends j keys) :
    second.arrange k (first.arrange j keys) = first.arrange j (second.arrange k keys) := by
  cases first with
  | put data =>
    have hj : j ∈ keys := not_not.1 h
    rw [arrange, arrange, if_pos hj, if_pos ((second.mem_arrange_of_ne hne keys).2 hj)]
  | delete key => exact second.filter_arrange hne keys
  | update key data | get key | scan => rfl

/-- **Unless both append, two calls arrange the keys alike in either order** — one of them is the
first of `arrange_comm_of_not_appends`. -/
theorem arrange_comm {first second : Call} (hne : j ≠ k) {keys : List String}
    (h : ¬ (first.Appends j keys ∧ second.Appends k keys)) :
    second.arrange k (first.arrange j keys) = first.arrange j (second.arrange k keys) := by
  rcases not_and_or.1 h with hfirst | hsecond
  · exact arrange_comm_of_not_appends second hne hfirst
  · exact (arrange_comm_of_not_appends first hne.symm hsecond).symm

end Table.Call

/-! ## Two calls on a ledger -/

namespace Ledger

variable {partitionKey : String} {first second : Table.Call}

/-- **Calls on different keys change the look-ups alike in either order** — each rewrites the
look-up of its own key, by `get?_serve`. -/
theorem get?_serve_comm (ledger : Ledger) (hapart : first.Apart partitionKey second) (k : String) :
    ((ledger.serve partitionKey first).2.serve partitionKey second).2.get? k =
      ((ledger.serve partitionKey second).2.serve partitionKey first).2.get? k := by
  cases hfirst : first.key? partitionKey with
  | none => rw [serve_of_key?_eq_none _ hfirst, serve_of_key?_eq_none _ hfirst]
  | some a =>
    cases hsecond : second.key? partitionKey with
    | none => rw [serve_of_key?_eq_none _ hsecond, serve_of_key?_eq_none _ hsecond]
    | some b =>
      have hne := hapart.text_ne hfirst hsecond
      simp only [get?_serve _ hfirst, get?_serve _ hsecond, if_neg hne, if_neg hne.symm]
      exact ite_ite_comm _ _ _ _ fun hk => hk ▸ hne.symm

/-- **Unless both append a key, calls on different keys lead to one ledger in either order** — the
same keys in the same order, with the same look-ups. -/
theorem serve_comm {ledger : Ledger}
    (hnodup : ((ledger.serve partitionKey first).2.serve partitionKey second).2.keys.Nodup)
    (hapart : first.Apart partitionKey second)
    (happends : ∀ a b, first.key? partitionKey = some a → second.key? partitionKey = some b →
      ¬ (first.Appends a.text ledger.keys ∧ second.Appends b.text ledger.keys)) :
    ((ledger.serve partitionKey first).2.serve partitionKey second).2 =
      ((ledger.serve partitionKey second).2.serve partitionKey first).2 := by
  have hkeys : ((ledger.serve partitionKey first).2.serve partitionKey second).2.keys =
      ((ledger.serve partitionKey second).2.serve partitionKey first).2.keys := by
    cases hfirst : first.key? partitionKey with
    | none => rw [serve_of_key?_eq_none _ hfirst, serve_of_key?_eq_none _ hfirst]
    | some a =>
      cases hsecond : second.key? partitionKey with
      | none => rw [serve_of_key?_eq_none _ hsecond, serve_of_key?_eq_none _ hsecond]
      | some b =>
        have hne := hapart.text_ne hfirst hsecond
        rw [keys_serve _ hsecond, keys_serve _ hfirst, keys_serve _ hfirst, keys_serve _ hsecond]
        exact Table.Call.arrange_comm hne (happends a b hfirst hsecond)
  exact Members.ext_of_keys hkeys hnodup fun k _ => ledger.get?_serve_comm hapart k

/-- `set` puts the pair of a key without an item at the end. -/
theorem set_of_get?_eq_none {ledger : Ledger} {key : String} (h : ledger.get? key = none)
    (item : Json) : ledger.set key item = ledger ++ [(key, item)] := by
  induction ledger with
  | nil => rfl
  | cons pair rest ih =>
    obtain ⟨k, v⟩ := pair
    rw [get?_cons] at h
    split at h
    · exact absurd h nofun
    · next hne => rw [set, if_neg (Ne.symm hne), ih h, List.cons_append]

end Ledger

/-! ## Two calls on a table -/

namespace Table

/-- **What a call that writes answers depends on the call alone** — `put` by what it encodes to, the
others by nothing. -/
theorem fst_serve (t : Table) {call : Call} (hwrite : call.IsWrite) (w w' : Workspace) :
    (t.serve call w).1 = (t.serve call w').1 := by
  cases call with
  | put data =>
    simp only [serve, put]
    split
    · rfl
    · split <;> rfl
  | update key data | delete key => rfl
  | get key | scan => exact hwrite.elim

/-- The state after two calls. -/
def serveBoth (t : Table) (first second : Call) (w : Workspace) : Workspace :=
  (t.serve second (t.serve first w).2).2

/-- **The call puts an item under a key that has none** — told from outside, by what encodes and
what `get?` finds. -/
def Adds (t : Table) (call : Call) (item : Json) (w : Workspace) : Prop :=
  ∃ data key, call = .put data ∧ data.encode = .ok item ∧
    call.key? t.config.partitionKey = some key ∧ t.get? key w = none

/-- **Two calls do not see each other**: answers and look-ups are those of the calls in either
order, and so are the number of items and their order, but for two new items, which come in the
order of the calls. -/
structure Independent (t : Table) (first second : Call) (w : Workspace) : Prop where
  answer_first : (t.serve first (t.serve second w).2).1 = (t.serve first w).1
  answer_second : (t.serve second (t.serve first w).2).1 = (t.serve second w).1
  get? : ∀ key, t.get? key (t.serveBoth first second w) = t.get? key (t.serveBoth second first w)
  size : t.size (t.serveBoth first second w) = t.size (t.serveBoth second first w)
  scan : (∀ x y, t.Adds first x w → ¬ t.Adds second y w) →
    t.scan (t.serveBoth first second w) = t.scan (t.serveBoth second first w)
  added : ∀ x y, t.Adds first x w → t.Adds second y w →
    t.scan (t.serveBoth first second w) = t.scan w ++ [x, y] ∧
      t.scan (t.serveBoth second first w) = t.scan w ++ [y, x]

end Table

namespace Workspace.Holds

variable {t : Table} {first second : Table.Call} {w : Workspace} {ledger : Ledger}

theorem serveBoth (h : w.Holds t.id ledger) (first second : Table.Call) :
    (t.serveBoth first second w).Holds t.id
      ((ledger.serve t.config.partitionKey first).2.serve t.config.partitionKey second).2 :=
  ((h.serve_self first).2.serve_self second).2

/-- A call on another key leaves what is found under a key. -/
theorem get?_serve_of_apart (h : w.Holds t.id ledger)
    (hapart : first.Apart t.config.partitionKey second) {key : Json}
    (hkey : second.key? t.config.partitionKey = some key) :
    t.get? key (t.serve first w).2 = t.get? key w := by
  rw [(h.serve_self first).2.get?_eq, h.get?_eq]
  cases hfirst : first.key? t.config.partitionKey with
  | none => rw [ledger.serve_of_key?_eq_none hfirst]
  | some a =>
    rw [ledger.get?_serve hfirst, if_neg (hapart.text_ne hfirst hkey).symm]

theorem adds_of_apart (h : w.Holds t.id ledger)
    (hapart : first.Apart t.config.partitionKey second) {item : Json}
    (hadds : t.Adds second item w) :
    t.Adds second item (t.serve first w).2 := by
  obtain ⟨data, key, hcall, hdata, hkey, hnone⟩ := hadds
  exact ⟨data, key, hcall, hdata, hkey, (h.get?_serve_of_apart hapart hkey).trans hnone⟩

/-- **What is added comes last** — `Ledger.set` appends where `get?` finds nothing. -/
theorem scan_of_adds (h : w.Holds t.id ledger) {call : Table.Call} {item : Json}
    (hadds : t.Adds call item w) : t.scan (t.serve call w).2 = t.scan w ++ [item] := by
  obtain ⟨data, key, rfl, hdata, hkey, hnone⟩ := hadds
  obtain ⟨stored, hstored, hitem, hne⟩ := Table.Call.key?_put_eq_some_iff.1 hkey
  obtain rfl : stored = item := Except.ok.inj (hstored.symm.trans hdata)
  rw [h.get?_eq, if_neg hne] at hnone
  rw [(h.serve_self _).2.shows.scan, h.shows.scan, ledger.serve_put_of_key? hdata hitem hne,
    Ledger.set_of_get?_eq_none hnone, List.map_append]
  rfl

/-- **So two calls that add leave their items at the end, in their order** — the second still adds,
by `adds_of_apart`. -/
theorem scan_serveBoth_of_adds (h : w.Holds t.id ledger)
    (hapart : first.Apart t.config.partitionKey second) {x y : Json} (hx : t.Adds first x w)
    (hy : t.Adds second y w) : t.scan (t.serveBoth first second w) = t.scan w ++ [x, y] := by
  have hlast := (h.serve_self first).2.scan_of_adds (h.adds_of_apart hapart hy)
  rw [Table.serveBoth, hlast, h.scan_of_adds hx, List.append_assoc]
  rfl

/-- What appends a key adds an item — so the exception of `serve_comm` is the one that a caller
sees. -/
theorem exists_adds_of_appends (h : w.Holds t.id ledger) {call : Table.Call} {key : Json}
    (hkey : call.key? t.config.partitionKey = some key)
    (happends : call.Appends key.text ledger.keys) :
    ∃ item, t.Adds call item w := by
  cases call with
  | put data =>
    obtain ⟨item, hdata, -, hne⟩ := Table.Call.key?_put_eq_some_iff.1 hkey
    refine ⟨item, data, key, rfl, hdata, hkey, ?_⟩
    rw [h.get?_eq, if_neg hne]
    exact Option.not_isSome_iff_eq_none.1 (mt (ledger.isSome_get? key.text).1 happends)
  | update given data | delete given | get given | scan => exact happends.elim

/-- **Calls on different keys are independent** — in every state that stands for a ledger. -/
theorem independent (h : w.Holds t.id ledger) (hfirst : first.IsWrite) (hsecond : second.IsWrite)
    (hapart : first.Apart t.config.partitionKey second) : t.Independent first second w := by
  have hone := h.serveBoth first second
  have hother := h.serveBoth second first
  have hget := ledger.get?_serve_comm hapart
  have hsame : (∀ x y, t.Adds first x w → ¬ t.Adds second y w) →
      ((ledger.serve t.config.partitionKey first).2.serve t.config.partitionKey second).2 =
        ((ledger.serve t.config.partitionKey second).2.serve t.config.partitionKey first).2 := by
    intro hadds
    refine Ledger.serve_comm hone.shows.distinct hapart fun a b ha hb happends => ?_
    obtain ⟨x, hx⟩ := h.exists_adds_of_appends ha happends.1
    obtain ⟨y, hy⟩ := h.exists_adds_of_appends hb happends.2
    exact hadds x y hx hy
  have hadded : ∀ x y, t.Adds first x w → t.Adds second y w →
      t.scan (t.serveBoth first second w) = t.scan w ++ [x, y] ∧
        t.scan (t.serveBoth second first w) = t.scan w ++ [y, x] := fun x y hx hy =>
    ⟨h.scan_serveBoth_of_adds hapart hx hy, h.scan_serveBoth_of_adds hapart.symm hy hx⟩
  refine ⟨t.fst_serve hfirst _ _, t.fst_serve hsecond _ _, fun key => ?_, ?_, fun hadds => ?_,
    hadded⟩
  · rw [hone.get?_eq, hother.get?_eq, hget]
  · by_cases hadds : ∃ x y, t.Adds first x w ∧ t.Adds second y w
    · obtain ⟨x, y, hx, hy⟩ := hadds
      obtain ⟨hxy, hyx⟩ := hadded x y hx hy
      rw [hone.shows.size_scan, hother.shows.size_scan, hxy, hyx, List.length_append,
        List.length_append]
      rfl
    · have hledger := hsame fun x y hx hy => hadds ⟨x, y, hx, hy⟩
      rw [hone.shows.size, hother.shows.size, hledger]
  · rw [hone.shows.scan, hother.shows.scan, hsame hadds]

end Workspace.Holds

namespace Session

/-- **Calls on different keys are independent, and patches compose.**  In every state of a table two
calls that write under different keys do not see each other, in whichever order they are made; only
the places of two new items tell the order.  And where the calls so far gave JSON values, an update
by an object followed by another update of the key leads to the state that the one update leads to
by the object with the other laid over it, or by the other if that is no object — be the key absent,
or the item under it an object or not. -/
theorem table_calls_independent {s s' : Session} {i : Nat} {config : TableConfig} {t : Table}
    (hdecl : s.step (.on i (.declareTable config)) = (.on (.resource (.table t)), s'))
    (requests : List Request) :
    let w := (s'.run requests).2.workspace
    (∀ first second : Table.Call, first.IsWrite → second.IsWrite →
      first.Apart t.config.partitionKey second → t.Independent first second w) ∧
    ((∀ access ∈ Access.ofTable t.id (s'.accesses requests), access.call.GivesValues) →
      ∀ key patch data, (Json.obj patch).IsCanonical →
        Json.Overlaid (.obj patch) data (Items.merge (.obj patch) data) ∧
          t.Alike (t.update key data (t.update key (.obj patch) w))
            (t.update key (Items.merge (.obj patch) data) w)) := by
  intro w
  have hw := holds_run hdecl requests
  refine ⟨fun first second hfirst hsecond hapart => hw.independent hfirst hsecond hapart, ?_⟩
  intro hvalues key patch data hpatch
  have hinOrder := (Ledger.Each.nil _).inOrder_replay hvalues
  exact ⟨Items.overlaid_merge _ _, Table.alike_update_update hw hinOrder key hpatch.1 data⟩

/-- Two new items come in the order in which they are put; two patches are one. -/
theorem table_calls_independent_of_puts :
    let t : Table := ⟨0, { name := "flags" }⟩
    let item (key : Json) : Json := .obj [("id", key)]
    let put (key : Json) : Table.Call := .put (.json (item key))
    let on (value : Bool) : Json := .obj [("on", .bool value)]
    let s := start [{}]
    let s' := (s.step (.on 0 (.declareTable t.config))).2
    let yes : Json := .bool true
    let w := (s'.run [.locally (.put t (.json (item yes)))]).2.workspace
    s.step (.on 0 (.declareTable t.config)) = (.on (.resource (.table t)), s') ∧
      t.scan (t.serveBoth (put (.str "a")) (put (.str "b")) w) =
        [item yes, item (.str "a"), item (.str "b")] ∧
      t.scan (t.serveBoth (put (.str "b")) (put (.str "a")) w) =
        [item yes, item (.str "b"), item (.str "a")] ∧
      t.scan (t.update yes (on true) (t.update yes (on false) w)) =
        [.obj [("id", yes), ("on", yes)]] := by
  intro t item put on s s' yes w
  have hvalid : t.config.validate = .ok () :=
    TableConfig.validate_eq_ok_iff.2 ⟨by decide, by decide⟩
  have hdecl : s.step (.on 0 (.declareTable t.config)) = (.on (.resource (.table t)), s') :=
    Prod.ext (declareTable_start hvalid) rfl
  have hkey : ∀ key, key ≠ .null → (put key).key? t.config.partitionKey = some key := fun key hne =>
    Table.Call.key?_put_eq_some_iff.2 ⟨item key, Payload.encode_json _, rfl, hne⟩
  have hw := holds_run hdecl [.locally (.put t (.json (item yes)))]
  have hscan : t.scan w = [item yes] := hw.shows.scan
  have hadds : ∀ key, key ≠ .null → t.get? key w = none → t.Adds (put key) (item key) w :=
    fun key hne hnone => ⟨_, key, rfl, Payload.encode_json _, hkey key hne, hnone⟩
  obtain ⟨hindependent, hpatches⟩ := table_calls_independent hdecl
    [.locally (.put t (.json (item yes)))]
  have hapart : (put (.str "a")).Apart t.config.partitionKey (put (.str "b")) := by
    intro a ha b hb
    obtain rfl := Option.some.inj (ha.symm.trans (hkey _ nofun))
    obtain rfl := Option.some.inj (hb.symm.trans (hkey _ nofun))
    decide
  have hboth := (hindependent (put (.str "a")) (put (.str "b")) trivial trivial hapart).added _ _
    (hadds (.str "a") nofun (hw.get?_eq _)) (hadds (.str "b") nofun (hw.get?_eq _))
  rw [hscan] at hboth
  have hvalues : ∀ access ∈ Access.ofTable t.id
    (s'.accesses [.locally (.put t (.json (item yes)))]),
      access.call.GivesValues := by
    refine List.forall_mem_singleton.2 ?_
    exact ⟨List.pairwise_singleton _ _, trivial, trivial⟩
  obtain ⟨-, halike⟩ := hpatches hvalues yes [("on", .bool false)] (on true)
    ⟨List.pairwise_singleton _ _, trivial, trivial⟩
  refine ⟨hdecl, hboth.1, hboth.2, halike.scan.trans ?_⟩
  exact (hw.serve_self (.update yes _)).2.shows.scan

end Session

end BackendPlan
