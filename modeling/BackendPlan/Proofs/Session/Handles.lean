import BackendPlan.Proofs.Registry.Refusal
import BackendPlan.Proofs.Session.Effects
import Mathlib.Data.List.Pairwise

/-!
# Proofs/Session/Handles — where handles come from, and what registries hold

A handle is handed out by the declaration that makes its object, and there is no other way to get
one.  A run is **genuine** if it goes by handles handed out before, in what callers do and in what
handlers do that they call.  Of such a run the handles tell everything there is: every object, and
every entry of every registry.

* `Session.handles`, `Session.Genuine` — the handles that a run hands out, and runs that use no
  others.
* `Session.Accounted` — **the invariant**: the handles are valid, of objects that are there and that
  are distinct, and registries hold no others.
* `Accounted.run_start` — it holds after every genuine run.
* `Session.registry_wellNamed` — so every registry tells its resources by their names.
-/

namespace BackendPlan

/-! ## Handing out and using -/

/-- **The handle that a reply hands out**, if it does: the replies to declarations alone do. -/
def Reply.handle? : Reply → Option Resource
  | .on (.resource r) => some r
  | _ => none

/-- The script does nothing but through the handles — whatever it is answered, since `next` ranges
over all answers. -/
def Script.Within (held : List Resource) : Script → Prop
  | answer _ => True
  | put table _ next => .table table ∈ held ∧ ∀ stored, (next stored).Within held
  | update table _ _ next => .table table ∈ held ∧ next.Within held
  | delete table _ next => .table table ∈ held ∧ next.Within held
  | get table _ next => .table table ∈ held ∧ ∀ item, (next item).Within held
  | scan table next => .table table ∈ held ∧ ∀ items, (next items).Within held
  | info stream _ _ _ next => .logStream stream ∈ held ∧ next.Within held
  | audit stream _ _ _ next => .logStream stream ∈ held ∧ next.Within held
  | write stream _ _ next => .logStream stream ∈ held ∧ ∀ recorded, (next recorded).Within held
  | entries stream next => .logStream stream ∈ held ∧ ∀ entries, (next entries).Within held

/-- The operation does nothing but through the handles. -/
def LocalOp.Within (held : List Resource) : LocalOp → Prop
  | put table _ | update table _ _ | delete table _ | get table _ | scan table =>
      .table table ∈ held
  | info stream .. | audit stream .. | write stream .. | entries stream => .logStream stream ∈ held
  | call handler input => (handler.body input).Within held

/-- **The request goes by the handles alone** — also what it puts into a registry as it is
(`putResource`). -/
def Request.Within (held : List Resource) : Request → Prop
  | on _ (.putResource r) => r ∈ held
  | on _ _ => True
  | locally op => op.Within held

namespace Session

/-- **The handles that a run hands out**, in their order — `Reply.handle?` of its replies. -/
def handles (s : Session) (requests : List Request) : List Resource :=
  (s.run requests).1.filterMap Reply.handle?

/-- **Every request goes by handles that were handed out before it**: no handle is made up, though
one may be used beside any registry. -/
def Genuine (s : Session) (requests : List Request) : Prop :=
  ∀ front request back, requests = front ++ request :: back → request.Within (s.handles front)

theorem handles_concat (s : Session) (requests : List Request) (request : Request) :
    s.handles (requests ++ [request]) =
      s.handles requests ++ ((s.run requests).2.step request).1.handle?.toList := by
  rw [handles, run_append, handles]
  exact List.filterMap_concat Reply.handle? _ _

/-- The handle of a declaration is among the `handles` of every run with the declaration in it. -/
theorem mem_handles_of_handle? {s : Session} {front : List Request} {request : Request}
    {r : Resource} (h : ((s.run front).2.step request).1.handle? = some r) (back : List Request) :
    r ∈ s.handles (front ++ request :: back) := by
  rw [handles, run_append, List.filterMap_append, run]
  exact List.mem_append_right _ (List.mem_filterMap.2 ⟨_, List.mem_cons_self, h⟩)

theorem Genuine.of_append {s : Session} {front back : List Request}
    (h : s.Genuine (front ++ back)) :
    s.Genuine front := by
  rintro early request late rfl
  exact h early request (late ++ back) (by rw [List.append_assoc, List.cons_append])

theorem genuine_nil (s : Session) : s.Genuine [] := fun front request back h =>
  absurd h (List.nil_ne_append_cons front request back)

theorem Genuine.concat {s : Session} {requests : List Request} {request : Request}
    (h : s.Genuine requests) (hwithin : request.Within (s.handles requests)) :
    s.Genuine (requests ++ [request]) := by
  intro front last back heq
  obtain ⟨rfl, rfl, -⟩ | ⟨rest, hrest, -⟩ := List.concat_eq_append_cons heq
  · exact hwithin
  · exact h front last rest hrest

theorem Genuine.within_of_concat {s : Session} {requests : List Request} {request : Request}
    (h : s.Genuine (requests ++ [request])) : request.Within (s.handles requests) :=
  h requests request [] rfl

end Session

/-! ## Deeds of genuine runs

A deed is done through a handle, so a run that goes by handles handed out before has them as the
targets of all its deeds. -/

/-- A script does its deeds through its handles — by induction, `Within` holding of what follows
each answer. -/
theorem Script.target_mem {held : List Resource} {script : Script} (h : script.Within held)
    (w : Workspace) : ∀ deed ∈ script.trace w, deed.target ∈ held := by
  induction script generalizing w with
  | answer output => exact List.forall_mem_nil _
  | put table data next ih => exact List.forall_mem_cons.2 ⟨h.1, ih _ (h.2 _) _⟩
  | update table key data next ih => exact List.forall_mem_cons.2 ⟨h.1, ih h.2 _⟩
  | delete table key next ih => exact List.forall_mem_cons.2 ⟨h.1, ih h.2 _⟩
  | get table key next ih => exact List.forall_mem_cons.2 ⟨h.1, ih _ (h.2 _) w⟩
  | scan table next ih => exact List.forall_mem_cons.2 ⟨h.1, ih _ (h.2 _) w⟩
  | info stream time message fields next ih => exact List.forall_mem_cons.2 ⟨h.1, ih h.2 _⟩
  | audit stream time message fields next ih => exact List.forall_mem_cons.2 ⟨h.1, ih h.2 _⟩
  | write stream time data next ih => exact List.forall_mem_cons.2 ⟨h.1, ih _ (h.2 _) _⟩
  | entries stream next ih => exact List.forall_mem_cons.2 ⟨h.1, ih _ (h.2 _) w⟩

/-- So does a request — the operations on registries do none. -/
theorem Request.target_mem {held : List Resource} {request : Request} (h : request.Within held)
    (w : Workspace) : ∀ deed ∈ request.trace w, deed.target ∈ held := by
  cases request with
  | on i op => exact List.forall_mem_nil _
  | locally op =>
    cases op with
    | put table data | update table key data | delete table key | get table key | scan table =>
      exact List.forall_mem_singleton.2 h
    | info stream time message fields | audit stream time message fields
    | write stream time data | entries stream => exact List.forall_mem_singleton.2 h
    | call handler input => exact Script.target_mem h w

/-- **The deeds of a genuine run are done through handles that it hands out** — the trace is cut at
each request, and `Request.target_mem` read there. -/
theorem Session.target_mem_handles {s : Session} {requests : List Request}
    (hgenuine : s.Genuine requests) :
    ∀ deed ∈ s.trace requests, deed.target ∈ s.handles requests := by
  induction requests using List.reverseRecOn with
  | nil => exact List.forall_mem_nil _
  | append_singleton requests request ih =>
    rw [trace_concat, handles_concat]
    refine List.forall_mem_append.2 ⟨fun deed hdeed => ?_, fun deed hdeed => ?_⟩
    · exact List.mem_append_left _ (ih hgenuine.of_append deed hdeed)
    · exact List.mem_append_left _ (Request.target_mem hgenuine.within_of_concat _ deed hdeed)

/-! ## The invariant -/

/-- **The handles account for the objects**: they passed their checks, each is of an object that is
there, and no two are of one. -/
structure Contents.Accounted (c : Contents) (held : List Resource) : Prop where
  valid : ∀ r ∈ held, r.validate = .ok ()
  live : ∀ r ∈ held, r.id < c.count r.kind
  distinct : held.Pairwise fun a b => a.sameAs b = false

namespace Contents.Accounted

variable {c c' : Contents} {held : List Resource}

theorem of_count_eq (h : c.Accounted held) (hcount : ∀ kind, c'.count kind = c.count kind) :
    c'.Accounted held where
  valid := h.valid
  live r hr := (h.live r hr).trans_eq (hcount r.kind).symm
  distinct := h.distinct

/-- **Handing out the next object of its kind keeps the account** — its number is `count`, which no
handle has yet. -/
theorem make (h : c.Accounted held) {r : Resource} (hvalid : r.validate = .ok ())
    (hid : r.id = c.count r.kind) : (c.make r.kind).Accounted (held ++ [r]) where
  valid := List.forall_mem_append.2 ⟨h.valid, List.forall_mem_singleton.2 hvalid⟩
  live := by
    refine List.forall_mem_append.2 ⟨fun old hold => ?_, List.forall_mem_singleton.2 ?_⟩
    · have hlt := h.live old hold
      rw [count_make]
      split <;> omega
    · rw [count_make, if_pos rfl]
      omega
  distinct := by
    refine List.pairwise_append.2 ⟨h.distinct, List.pairwise_singleton _ r, fun old hold => ?_⟩
    refine List.forall_mem_singleton.2 (Bool.eq_false_iff.2 fun hsame => ?_)
    -- the new object has the next number of its kind, which no older object has
    obtain ⟨hkind, hsameId⟩ := Resource.sameAs_iff.1 hsame
    have hlt := h.live old hold
    rw [hkind, hsameId, hid] at hlt
    exact Nat.lt_irrefl _ hlt

/-- **Handles of one object are one handle** — `distinct` read the other way. -/
theorem eq_of_sameAs (h : c.Accounted held) {a b : Resource} (ha : a ∈ held) (hb : b ∈ held)
    (hsame : a.sameAs b = true) : a = b := by
  have hsymm : Std.Symm fun a b : Resource => a.sameAs b = false :=
    ⟨fun _ _ hab => Bool.eq_false_iff.2 fun hba =>
      Bool.eq_false_iff.1 hab (Resource.sameAs_symm hba)⟩
  by_contra hne
  exact Bool.eq_false_iff.1 (h.distinct.forall ha hb hne) hsame

end Contents.Accounted

namespace Session

/-- **The handles account for the session**: for its objects, and for what its registries hold. -/
structure Accounted (s : Session) (held : List Resource) : Prop where
  objects : s.workspace.contents.Accounted held
  registered : ∀ {i : Nat} {registry : Registry}, s.registries[i]? = some registry →
    ∀ r ∈ registry.resources, r ∈ held

namespace Accounted

variable {s : Session} {held : List Resource}

/-- What an operation on a registry leads to is accounted for, if what is put into it is. -/
theorem registryOp (h : s.Accounted held) {i : Nat} {registry : Registry}
    (hr : s.registries[i]? = some registry) {op : RegistryOp}
    (hop : ∀ r, op = .putResource r → r ∈ held) :
    let out := op.run ⟨registry, s.workspace⟩
    let held' := held ++ (Reply.on out.1).handle?.toList
    out.2.workspace.contents.Accounted held' ∧ ∀ r ∈ out.2.registry.resources, r ∈ held' := by
  intro out held'
  constructor
  · cases hreply : out.1 with
    | resource r =>
      obtain ⟨hvalid, hid, -, hcontents⟩ := RegistryOp.run_of_reply_resource hreply
      simp only [held', hreply, out, hcontents]
      exact h.objects.make hvalid hid
    | _ =>
      have hcontents := RegistryOp.contents_run_of_reply_ne fun r => hreply.trans_ne nofun
      simp only [held', hreply, out, hcontents]
      exact (List.append_nil held).symm ▸ h.objects
  · intro r hmem
    refine List.mem_append.2 ?_
    rcases RegistryOp.mem_resources_run hmem with hold | hreply | hput
    · exact .inl (h.registered hr r hold)
    · refine .inr ?_
      rw [hreply]
      exact List.mem_singleton_self r
    · exact .inl (hop r hput)

/-- **One request keeps the account**, if it is `Within` the handles — the handle it hands out being
added. -/
theorem step (h : s.Accounted held) {request : Request} (hwithin : request.Within held) :
    (s.step request).2.Accounted (held ++ (s.step request).1.handle?.toList) := by
  cases request with
  | locally op =>
    have hheld : held ++ (s.step (.locally op)).1.handle?.toList = held := List.append_nil held
    rw [hheld]
    refine ⟨h.objects.of_count_eq fun kind => ?_, h.registered⟩
    have hcontents := op.contents_run s.workspace
    exact (congrArg (·.count kind) hcontents).trans (Contents.count_applyAll _ _ kind)
  | on i op =>
    cases hr : s.registries[i]? with
    | none =>
      rw [step_on_of_getElem?_eq_none hr]
      exact (List.append_nil held).symm ▸ h
    | some registry =>
      have hop : ∀ r, op = .putResource r → r ∈ held := by
        rintro r rfl
        exact hwithin
      obtain ⟨hobjects, hregistered⟩ := h.registryOp hr hop
      rw [step_on hr]
      refine ⟨hobjects, fun {j other} hother r hmem => ?_⟩
      rw [Array.getElem?_setIfInBounds] at hother
      split at hother
      · rw [if_pos (Array.getElem?_eq_some_iff.1 hr).1] at hother
        exact hregistered r (Option.some.inj hother ▸ hmem)
      · exact List.mem_append_left _ (h.registered hother r hmem)

/-- At the start there is nothing to account for. -/
theorem start (settings : List Settings) : (Session.start settings).Accounted [] where
  objects := ⟨List.forall_mem_nil _, List.forall_mem_nil _, List.Pairwise.nil⟩
  registered {i registry} hr r hmem := by
    rw [Session.start, List.getElem?_toArray, List.getElem?_map] at hr
    obtain ⟨own, -, rfl⟩ := Option.map_eq_some_iff.1 hr
    exact absurd hmem (Array.not_mem_empty r)

/-- **After a genuine run the handles account for the session** — `Accounted.step`, request by
request. -/
theorem run_start {settings : List Settings} {requests : List Request}
    (hgenuine : (Session.start settings).Genuine requests) :
    ((Session.start settings).run requests).2.Accounted
      ((Session.start settings).handles requests) := by
  induction requests using List.reverseRecOn with
  | nil => exact start settings
  | append_singleton requests request ih =>
    rw [run_append, handles_concat]
    exact (ih hgenuine.of_append).step hgenuine.within_of_concat

end Accounted

end Session

/-! ## Names -/

/-- What passed its check has a name that is not blank — the first thing that every `validate`
asks. -/
theorem Resource.isBlankText_name {r : Resource} (h : r.validate = .ok ()) :
    Text.isBlankText r.name = false := by
  cases r with
  | table t => exact (TableConfig.validate_eq_ok_iff.1 h).1
  | logStream l => exact Config.requireText_eq_ok_iff.1 h
  | identityPool p => exact Config.requireText_eq_ok_iff.1 h

/-- **The resources of a registry are told by their names**: listed once each, found under their
name (`resource?`), and under no other. -/
structure Registry.WellNamed (r : Registry) : Prop where
  /-- The index is exact. -/
  indexed : ∀ (name : String) (i : Nat),
    r.index[name]? = some i ↔ ∃ h : i < r.resources.size, r.resources[i].name = name
  /-- It never leads out of the list of resources. -/
  inBounds : ∀ (name : String) (i : Nat), r.index[name]? = some i → i < r.resources.size
  distinct : r.names.Nodup
  found : ∀ name resource,
    r.resource? name = some resource ↔ resource ∈ r.resources ∧ resource.name = name
  missing : ∀ name, r.resource? name = none ↔ ∀ resource ∈ r.resources, resource.name ≠ name
  /-- No name is blank. -/
  named : ∀ resource ∈ r.resources, Text.isBlankText resource.name = false
  /-- No partition key is blank. -/
  keyed : ∀ t, .table t ∈ r.resources → Text.isBlankText t.config.partitionKey = false

theorem Registry.Indexed.wellNamed {r : Registry} (h : r.Indexed)
    (hvalid : ∀ resource ∈ r.resources, resource.validate = .ok ()) : r.WellNamed where
  indexed := h
  inBounds name i hi := ((h name i).1 hi).1
  distinct := h.nodup_names
  found _ _ := h.resource?_eq_some_iff
  missing name := by
    rw [h.resource?_eq_none_iff, mem_names, not_exists]
    exact forall_congr' fun _ => not_and
  named resource hmem := Resource.isBlankText_name (hvalid resource hmem)
  keyed t hmem := (TableConfig.validate_eq_ok_iff.1 (hvalid _ hmem)).2

namespace Session

/-- **Every registry of a session tells its resources by their names** — whatever was declared,
refused, overwritten and reset, and whichever handles were registered again, also in another
registry than the one they were declared in: it is `WellNamed` by `Indexed` and by the account of
its handles. -/
theorem registry_wellNamed (settings : List Settings) (requests : List Request)
    (hgenuine : (start settings).Genuine requests) (i : Nat) (registry : Registry)
    (hr : ((start settings).run requests).2.registries[i]? = some registry) :
    registry.WellNamed := by
  have haccounted := Accounted.run_start hgenuine
  refine (indexed_run hr).wellNamed fun resource hmem => ?_
  have hheld := haccounted.registered hr resource hmem
  exact haccounted.objects.valid resource hheld

/-- A table, and over it a log stream of its name that was declared in another registry:
`putResource` takes the handle from there. -/
theorem registry_wellNamed_of_exchange :
    let table : Table := ⟨0, { name := "users" }⟩
    let stream : LogStream := ⟨0, { name := "users" }⟩
    let front : List Request :=
      [.on 0 (.declareTable table.config), .on 1 (.declareLogStream stream.config)]
    let requests := front ++ [.on 0 (.putResource (.logStream stream))]
    let s := start [{}, {}]
    let registry := ((Registry.withSettings {}).putResource (.table table)).putResource
      (.logStream stream)
    s.Genuine requests ∧ (s.run requests).2.registries[0]? = some registry ∧
      registry.resource? "users" = some (.logStream stream) := by
  intro table stream front requests s registry
  have htable : table.config.validate = .ok () :=
    TableConfig.validate_eq_ok_iff.2 ⟨by decide, by decide⟩
  have hstream : stream.config.validate = .ok () := Config.requireText_eq_ok_iff.2 (by decide)
  have hhandles : s.handles front = [.table table, .logStream stream] := by
    simp [handles, front, s, run, step, start, RegistryOp.run, Workbench.declareResource,
      Workbench.declareTable, htable, Workbench.declareLogStream, hstream, Workbench.putResource,
      Registry.withSettings]
    rfl
  have hgenuine : s.Genuine requests := by
    have hfirst : s.Genuine [.on 0 (.declareTable table.config)] := s.genuine_nil.concat trivial
    have hfront : s.Genuine front := hfirst.concat trivial
    exact hfront.concat (hhandles ▸ List.mem_cons_of_mem _ List.mem_cons_self)
  have hr : (s.run requests).2.registries[0]? = some registry := by
    simp [requests, front, s, run, step, start, RegistryOp.run, Workbench.declareResource,
      Workbench.declareTable, htable, Workbench.declareLogStream, hstream, Workbench.putResource,
      Registry.withSettings, Registry.putResource, Resource.name, Workbench.report,
      Workbench.modifyRegistry, Workbench.modifyContents, registry, table, stream]
  have hnamed := registry_wellNamed [{}, {}] requests hgenuine 0 registry hr
  refine ⟨hgenuine, hr, (hnamed.found _ _).2 ⟨?_, rfl⟩⟩
  simp [registry, Registry.putResource, Registry.withSettings, Resource.name, table, stream]

end Session

end BackendPlan
