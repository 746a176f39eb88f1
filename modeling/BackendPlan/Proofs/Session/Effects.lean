import BackendPlan.Proofs.Registry.Outcome
import BackendPlan.Proofs.Session.Trace

/-!
# Proofs/Session/Effects — what is done to objects, and what becomes of their contents

Whoever does something to an object does it through a handle: a caller, or a handler that is called.
The **effects** of a run are these doings in their order; reading is none.

* `Contents.content` — what is seen through a handle; handles of one object see the same.
* `content_apply` — **one effect changes what is seen through the handles of its target**, and
  nothing else.
* `Workspace.course_contents` — an operation leaves the contents with its effects applied, a
  handler's included.
* `content_applyAll` — so what is seen through a handle is a replay of the effects on its object.
-/

namespace BackendPlan

/-! ## Content -/

/-- **What an object contains**: the `Items` of a table, the entries of a log; a pool contains
nothing. -/
inductive Content where
  | items (items : Items)
  | entries (entries : List LogEntry)
  /-- An identity pool contains nothing. -/
  | nothing

/-- The content of a new object of a kind. -/
def Content.empty : ResourceKind → Content
  | .table => items {}
  | .logStream => entries []
  | .identityPool => nothing

namespace Contents

/-- **What is seen through a handle** — read off its `id` in the list of its kind. -/
def content (c : Contents) : Resource → Content
  | .table t => .items (c.items t.id)
  | .logStream l => .entries (c.entries l.id)
  | .identityPool _ => .nothing

/-- **Handles of one object see the same** — `sameAs` compares kind and `id`, which is all that
`content` reads. -/
theorem content_of_sameAs (c : Contents) {a b : Resource} (h : a.sameAs b = true) :
    c.content a = c.content b := by
  obtain ⟨hkind, hid⟩ := Resource.sameAs_iff.1 h
  cases a <;> cases b <;> simp_all [content, Resource.kind, Resource.id]

/-- A number that no object has yet shows no content — the look-up falls off the list. -/
theorem content_of_count_le (c : Contents) {r : Resource} (h : c.count r.kind ≤ r.id) :
    c.content r = .empty r.kind := by
  cases r with
  | table t => exact congrArg Content.items (congrArg (·.getD {}) (Array.getElem?_eq_none h))
  | logStream l => exact congrArg Content.entries (congrArg (·.getD []) (Array.getElem?_eq_none h))
  | identityPool p => rfl

/-- **`make` changes no content** — the new object is appended empty, and was seen as empty
before. -/
theorem content_make (c : Contents) (kind : ResourceKind) (r : Resource) :
    (c.make kind).content r = c.content r := by
  cases r with
  | table t => exact congrArg Content.items (c.items_make kind t.id)
  | logStream l => exact congrArg Content.entries (c.entries_make kind l.id)
  | identityPool p => rfl

end Contents

/-! ## Effects -/

/-- What a call makes of the items of its table — `get` and `scan` leave them alone. -/
def Table.change (t : Table) (items : Items) : Table.Call → Items
  | .put data =>
    match data.encode with
    | .error _ => items
    | .ok item =>
      match t.keyOf? item with
      | some key => items.insert key item
      | none => items
  | .update key data =>
    match Items.keyText key with
    | some key => items.update key data
    | none => items
  | .delete key =>
    match Items.keyText key with
    | some key => items.remove key
    | none => items
  | .get _ | .scan => items

/-- **Something done to an object**, through a handle: the deeds that only read have none. -/
inductive Effect where
  | call (table : Table) (call : Table.Call)
  | append (stream : LogStream) (entry : LogEntry)

namespace Effect

/-- The handle that the effect is done through. -/
def target : Effect → Resource
  | call t _ => .table t
  | append l _ => .logStream l

/-- **What it makes of the content** of its object: a content of another kind is left alone, and is
never met. -/
def change : Effect → Content → Content
  | call t told, .items items => .items (t.change items told)
  | append _ entry, .entries entries => .entries (entries ++ [entry])
  | _, content => content

/-- **What becomes of the content of an object** — the effects through its handles (`sameAs`) change
it, one after another, and no others do. -/
def replay (r : Resource) (effects : List Effect) (content : Content) : Content :=
  effects.foldl (fun content e => if e.target.sameAs r then e.change content else content) content

theorem replay_append (r : Resource) (front back : List Effect) (content : Content) :
    replay r (front ++ back) content = replay r back (replay r front content) :=
  List.foldl_append

/-- **Without effects on it an object keeps its content** — every step of `replay` skips. -/
theorem replay_of_forall {r : Resource} {effects : List Effect}
    (h : ∀ e ∈ effects, e.target.sameAs r = false) (content : Content) :
    replay r effects content = content := by
  induction effects with
  | nil => rfl
  | cons e rest ih =>
    have hother : ¬ e.target.sameAs r = true := Bool.not_eq_true _ ▸ h e List.mem_cons_self
    rw [replay, List.foldl_cons, if_neg hother]
    exact ih fun e he => h e (List.mem_cons_of_mem _ he)

end Effect

namespace Contents

/-- The contents after an effect — `modifyItems` or `modifyLog` at the number of its handle. -/
def apply (c : Contents) : Effect → Contents
  | .call t call => c.modifyItems t.id (t.change · call)
  | .append l entry => c.modifyEntries l.id (· ++ [entry])

/-- The contents after effects, one after another: a fold of `apply`. -/
def applyAll (c : Contents) (effects : List Effect) : Contents := effects.foldl apply c

theorem applyAll_append (c : Contents) (front back : List Effect) :
    c.applyAll (front ++ back) = (c.applyAll front).applyAll back := List.foldl_append

/-- `apply` makes no object — it writes in place. -/
theorem count_apply (c : Contents) (e : Effect) (kind : ResourceKind) :
    (c.apply e).count kind = c.count kind := by
  cases e <;> cases kind <;> simp [apply, count, modifyItems, modifyEntries]

/-- **One effect changes its object**, as seen through every handle of it, and no other — the object
must be there, since writing past the end does nothing. -/
theorem content_apply (c : Contents) (e : Effect) {r : Resource} (hlive : r.id < c.count r.kind) :
    (c.apply e).content r = if e.target.sameAs r then e.change (c.content r) else c.content r := by
  cases e with
  | call t call =>
    cases r with
    | table own =>
      rw [content, apply, items_modifyItems]
      by_cases hid : own.id = t.id
      · have hsame : (Resource.table t).sameAs (.table own) = true :=
          Resource.sameAs_iff.2 ⟨rfl, hid.symm⟩
        rw [if_pos ⟨hid, hid ▸ hlive⟩, Effect.target, if_pos hsame, content, Effect.change, hid]
      · have hother : ¬ (Resource.table t).sameAs (.table own) = true := fun hsame =>
          hid (Resource.sameAs_iff.1 hsame).2.symm
        rw [if_neg fun h => hid h.1, Effect.target, if_neg hother, content]
    | logStream own => rfl
    | identityPool own => rfl
  | append l entry =>
    cases r with
    | table own => rfl
    | logStream own =>
      rw [content, apply, entries_modifyEntries]
      by_cases hid : own.id = l.id
      · have hsame : (Resource.logStream l).sameAs (.logStream own) = true :=
          Resource.sameAs_iff.2 ⟨rfl, hid.symm⟩
        rw [if_pos ⟨hid, hid ▸ hlive⟩, Effect.target, if_pos hsame, content, Effect.change, hid]
      · have hother : ¬ (Resource.logStream l).sameAs (.logStream own) = true := fun hsame =>
          hid (Resource.sameAs_iff.1 hsame).2.symm
        rw [if_neg fun h => hid h.1, Effect.target, if_neg hother, content]
    | identityPool own => rfl

/-- **An effect leaves every other object alone** — here also those that are not there yet. -/
theorem content_apply_of_ne (c : Contents) {e : Effect} {r : Resource}
    (h : e.target.sameAs r = false) : (c.apply e).content r = c.content r := by
  by_cases hlive : r.id < c.count r.kind
  · rw [c.content_apply e hlive, h, if_neg Bool.false_ne_true]
  · have hcount : c.count r.kind ≤ r.id := Nat.le_of_not_lt hlive
    rw [c.content_of_count_le hcount, content_of_count_le _ ((c.count_apply e _).trans_le hcount)]

theorem count_applyAll (c : Contents) (effects : List Effect) (kind : ResourceKind) :
    (c.applyAll effects).count kind = c.count kind := by
  induction effects generalizing c with
  | nil => rfl
  | cons e rest ih => exact (ih (c.apply e)).trans (c.count_apply e kind)

/-- **What is seen through a handle is a replay of the effects on its object** — by `content_apply`,
`hlive` being kept by `count_apply`. -/
theorem content_applyAll (c : Contents) (effects : List Effect) {r : Resource}
    (hlive : r.id < c.count r.kind) :
    (c.applyAll effects).content r = Effect.replay r effects (c.content r) := by
  induction effects generalizing c with
  | nil => rfl
  | cons e rest ih =>
    have hnext : r.id < (c.apply e).count r.kind := hlive.trans_eq (c.count_apply e r.kind).symm
    calc (c.applyAll (e :: rest)).content r
        = Effect.replay r rest ((c.apply e).content r) := ih (c.apply e) hnext
      _ = Effect.replay r (e :: rest) (c.content r) := by
        rw [c.content_apply e hlive, Effect.replay, Effect.replay, List.foldl_cons]

/-- `modifyItems` by a change that changes nothing. -/
theorem modifyItems_eq_self {c : Contents} {i : Nat} {f : Items → Items}
    (h : ∀ items, f items = items) : c.modifyItems i f = c := by
  obtain rfl : f = id := funext h
  have hsame : c.tables.modify i id = c.tables := by
    refine Array.ext_getElem? fun j => ?_
    rw [Array.getElem?_modify]
    split
    · exact Option.map_id_apply
    · rfl
  rw [modifyItems, hsame]

end Contents

/-! ## The effects of a run -/

namespace Deed

/-- **What a deed does to its object**: reading does nothing, and neither does writing what cannot
be encoded to a log. -/
def effect? : Deed → Option Effect
  | table ⟨t, call, _⟩ =>
    match call with
    | .put _ | .update _ _ | .delete _ => some (.call t call)
    | .get _ | .scan => none
  | stream access => access.appended?.map fun a => .append a.stream a.entry

/-- A deed has its effect on the object that it is done to — so what is known of targets is known of
effects. -/
theorem target_of_effect? {deed : Deed} {e : Effect} (h : deed.effect? = some e) :
    e.target = deed.target := by
  cases deed with
  | table access =>
    obtain ⟨t, call, answer⟩ := access
    cases call with
    | put data | update key data | delete key =>
      obtain rfl := Option.some.inj h
      rfl
    | get key | scan => exact absurd h nofun
  | stream access =>
    obtain ⟨a, ha, rfl⟩ := Option.map_eq_some_iff.1 h
    obtain ⟨entry, -, rfl⟩ := Option.map_eq_some_iff.1 ha
    rfl

/-- The effects of deeds, in their order. -/
def effects (trace : List Deed) : List Effect := trace.filterMap effect?

theorem effects_append (front back : List Deed) :
    effects (front ++ back) = effects front ++ effects back := List.filterMap_append

end Deed

/-- The effects of an operation through handles — those of its trace. -/
def LocalOp.effects (op : LocalOp) (w : Workspace) : List Effect := Deed.effects (op.trace w)

/-- The effects of a request; an operation on a registry has none. -/
def Request.effects (request : Request) (w : Workspace) : List Effect :=
  Deed.effects (request.trace w)

/-- **The effects of the requests that a session serves**: those of its `trace`, handlers
included. -/
def Session.effects (s : Session) (requests : List Request) : List Effect :=
  Deed.effects (s.trace requests)

/-! ## Contents after a run -/

/-- Serving a call applies it — a call that only reads is applied as no change. -/
theorem Table.contents_serve (t : Table) (call : Table.Call) (w : Workspace) :
    (t.serve call w).2.contents = w.contents.apply (.call t call) := by
  cases call with
  | put data =>
    simp only [serve, put, Contents.apply, change]
    cases data.encode with
    | error cause => exact (Contents.modifyItems_eq_self fun _ => rfl).symm
    | ok item =>
      cases hkey : t.keyOf? item with
      | none => simp only [hkey, Contents.modifyItems_eq_self fun _ => rfl,
          Workspace.contents_report]
      | some key => simp only [hkey]
  | update key data =>
    simp only [serve, update, Contents.apply, change]
    cases Items.keyText key with
    | none => exact (Contents.modifyItems_eq_self fun _ => rfl).symm
    | some key => rfl
  | delete key =>
    simp only [serve, delete, Contents.apply, change]
    cases Items.keyText key with
    | none => exact (Contents.modifyItems_eq_self fun _ => rfl).symm
    | some key => rfl
  | get key => exact (Contents.modifyItems_eq_self fun _ => rfl).symm
  | scan => exact (Contents.modifyItems_eq_self fun _ => rfl).symm

/-- A call leaves every other object alone. -/
theorem Table.content_serve_of_ne (t : Table) (call : Table.Call) (w : Workspace) {r : Resource}
    (h : (Resource.table t).sameAs r = false) :
    (t.serve call w).2.contents.content r = w.contents.content r := by
  rw [t.contents_serve]
  exact w.contents.content_apply_of_ne h

/-- **Between two workspaces the contents went the way of the effects** — and this is a `Course`, so
it holds of every script and every operation. -/
theorem Workspace.course_contents :
    Course fun w trace w' => w'.contents = w.contents.applyAll (Deed.effects trace) where
  nil _ := rfl
  append hfront hback := by rw [Deed.effects_append, Contents.applyAll_append, ← hfront, hback]
  table t call w := by
    rw [t.contents_serve]
    cases call with
    | put data | update key data | delete key => rfl
    | get key | scan => exact Contents.modifyItems_eq_self fun _ => rfl
  stream l call w := by
    cases call with
    | write time data =>
      simp only [LogStream.serve, LogStream.write, LogStream.deed, LogStream.access, Deed.effects,
        List.filterMap_cons, Deed.effect?, LogAccess.appended?, LogStream.Call.made?]
      cases data.encode <;> rfl
    | info time message fields | audit time message fields | entries => rfl

/-- **An operation through handles leaves the contents with its effects applied** — the case of
`course_contents` for one operation. -/
theorem LocalOp.contents_run (op : LocalOp) (w : Workspace) :
    (op.run w).2.contents = w.contents.applyAll (op.effects w) :=
  Workspace.course_contents.localOp op w

end BackendPlan
