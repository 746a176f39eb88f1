import BackendPlan.Proofs.Registry.Holdings
import BackendPlan.Proofs.Session.Handles

/-!
# Proofs/Session/Sharing — handles and entries of one object share it, and nothing else is shared

Declarations give out handles and put them into registries, and both may be copied at will: what a
caller keeps, what a handler has captured, and what is looked up by name are one handle, and there
is one object behind it.  Equal names and equal configurations mean nothing.

* `Session.content_step` — **one request changes an object by its effects through the object's
  handles**; an operation on a registry has no effects.
* `Session.content_run_start` — so an object contains what the effects through its handles made of
  nothing.
* `Registry.Finds`, `keep_finds` — what was registered last under a name is found under it, until a
  reset.
* `Session.handles_are_objects` — all of it, in every state of a genuine run.
-/

namespace BackendPlan

/-! ## Effects go through handles -/

namespace Session

theorem effects_concat (s : Session) (requests : List Request) (request : Request) :
    s.effects (requests ++ [request]) =
      s.effects requests ++ request.effects (s.run requests).2.workspace := by
  rw [effects, trace_concat, Deed.effects_append]
  rfl

/-- **The effects of a genuine run are through handles that it hands out** — an effect has the
target of its deed. -/
theorem target_mem_handles_of_effect {s : Session} {requests : List Request}
    (hgenuine : s.Genuine requests) : ∀ e ∈ s.effects requests, e.target ∈ s.handles requests := by
  intro e he
  obtain ⟨deed, hdeed, heffect⟩ := List.mem_filterMap.1 he
  exact Deed.target_of_effect? heffect ▸ target_mem_handles hgenuine deed hdeed

/-! ## What a request does to an object -/

variable {s : Session} {held : List Resource}

/-- The state after an operation on a registry of the session. -/
theorem step_on_eq_of_reply {i : Nat} {op : RegistryOp} {reply : RegistryReply}
    (h : (s.step (.on i op)).1 = .on reply) :
    ∃ registry, s.registries[i]? = some registry ∧ (op.run ⟨registry, s.workspace⟩).1 = reply := by
  cases hr : s.registries[i]? with
  | none =>
    rw [step_on_of_getElem?_eq_none hr] at h
    exact absurd h nofun
  | some registry =>
    rw [step_on hr] at h
    exact ⟨registry, rfl, Reply.on.inj h⟩

/-- Only operations on registries hand out handles. -/
theorem exists_on_of_handle? {request : Request} {r : Resource}
    (h : (s.step request).1.handle? = some r) :
    ∃ i op, request = .on i op ∧ (s.step request).1 = .on (.resource r) := by
  cases request with
  | locally op => exact absurd h nofun
  | on i op =>
    refine ⟨i, op, rfl, ?_⟩
    unfold Reply.handle? at h
    split at h
    · next made hmade => rw [hmade, Option.some.inj h]
    · exact absurd h nofun

/-- Operations on registries change no content — a declaration makes an object, by
`content_make`. -/
theorem content_step_on (s : Session) (i : Nat) (op : RegistryOp) (r : Resource) :
    (s.step (.on i op)).2.workspace.contents.content r = s.workspace.contents.content r := by
  cases hr : s.registries[i]? with
  | none => rw [step_on_of_getElem?_eq_none hr]
  | some registry =>
    rw [step_on hr]
    rcases op.contents_run ⟨registry, s.workspace⟩ with hcontents | ⟨kind, hcontents⟩
    · exact congrArg (·.content r) hcontents
    · exact (congrArg (·.content r) hcontents).trans (Contents.content_make _ kind r)

/-- **One request changes an object by the effects through its handles** — `hlive`, since an object
that is not there yet takes no writes. -/
theorem content_step {r : Resource} (hlive : r.id < s.workspace.contents.count r.kind)
    (request : Request) :
    (s.step request).2.workspace.contents.content r =
      Effect.replay r (request.effects s.workspace) (s.workspace.contents.content r) := by
  cases request with
  | on i op => exact s.content_step_on i op r
  | locally op =>
    have hcontents := op.contents_run s.workspace
    exact (congrArg (·.content r) hcontents).trans (Contents.content_applyAll _ _ hlive)

/-- **A declaration makes an object of its own, which is empty** — its number is the next one, and
the account has none of it. -/
theorem Accounted.declared (h : s.Accounted held) {i : Nat} {op : RegistryOp} {r : Resource}
    (hreply : (s.step (.on i op)).1 = .on (.resource r)) :
    (∀ old ∈ held, old.sameAs r = false) ∧
      (s.step (.on i op)).2.workspace.contents.content r = .empty r.kind := by
  obtain ⟨registry, -, hmade⟩ := step_on_eq_of_reply hreply
  obtain ⟨hvalid, hid, -⟩ := RegistryOp.run_of_reply_resource hmade
  refine ⟨fun old hold => ?_, ?_⟩
  · have hmade := (h.objects.make hvalid hid).distinct
    exact (List.pairwise_append.1 hmade).2.2 old hold r (List.mem_singleton_self r)
  · rw [content_step_on]
    exact Contents.content_of_count_le _ hid.ge

/-- **What an object contains is what the effects through its handles made of nothing** — the
effects from before its declaration are through other handles. -/
theorem content_run_start {settings : List Settings} {requests : List Request}
    (hgenuine : (start settings).Genuine requests) :
    ∀ r ∈ (start settings).handles requests,
      ((start settings).run requests).2.workspace.contents.content r =
        Effect.replay r ((start settings).effects requests) (.empty r.kind) := by
  induction requests using List.reverseRecOn with
  | nil => exact List.forall_mem_nil _
  | append_singleton requests request ih =>
    have haccounted := Accounted.run_start hgenuine.of_append
    rw [run_append, handles_concat, effects_concat]
    refine List.forall_mem_append.2 ⟨fun r hr => ?_, fun r hr => ?_⟩
    · rw [Effect.replay_append, ← ih hgenuine.of_append r hr]
      exact content_step (haccounted.objects.live r hr) request
    · obtain ⟨i, op, rfl, hreply⟩ := exists_on_of_handle? (Option.mem_toList.1 hr)
      obtain ⟨hother, hempty⟩ := haccounted.declared hreply
      -- nothing done so far was done through a handle of the new object
      have huntouched : Effect.replay r ((start settings).effects requests) (.empty r.kind) =
          .empty r.kind :=
        Effect.replay_of_forall (fun e he =>
          hother _ (target_mem_handles_of_effect hgenuine.of_append e he)) _
      rw [Effect.replay_append, huntouched]
      exact hempty

end Session

/-! ## What is found under a name -/

/-- **The exchange leaves the name alone**: it is no `reset` and registers nothing under the
name. -/
def Exchange.Spares (name : String) (e : Exchange) : Prop :=
  e.op.isReset = false ∧ ∀ r, e.registered? = some r → r.name ≠ name

/-- What is registered is found under its name — the index is written with the list. -/
theorem RegistryOp.resource?_of_registered? {b : Workbench} (hb : b.registry.Indexed)
    {op : RegistryOp} {r : Resource} (h : (op.exchange b).registered? = some r) :
    (op.run b).2.registry.resource? r.name = some r := by
  have hreset : op.isReset = false := by
    cases op with
    | reset => exact absurd h nofun
    | _ => rfl
  rw [run_eq_accept (·.resource? r.name) (fun _ => rfl) hreset b, hb.resource?_accept, h,
    Option.elim_some, if_pos rfl]

/-- What leaves a name alone leaves what is found under it — by `Indexed`, entries of other names
keep their places. -/
theorem RegistryOp.resource?_of_spares {b : Workbench} (hb : b.registry.Indexed) {op : RegistryOp}
    {name : String} (h : (op.exchange b).Spares name) :
    (op.run b).2.registry.resource? name = b.registry.resource? name := by
  have hreset : op.isReset = false := h.1
  rw [run_eq_accept (·.resource? name) (fun _ => rfl) hreset b, hb.resource?_accept]
  cases hregistered : (op.exchange b).registered? with
  | none => rfl
  | some other => exact if_neg fun hname => h.2 other hregistered hname.symm

/-- **What was registered last under a name is found under it**, until the next registration of the
name or the next reset (`Exchange.Spares`). -/
def Registry.Finds (registry : Registry) (history : List Exchange) : Prop :=
  ∀ past e future r, history = past ++ e :: future → e.registered? = some r →
    (∀ later ∈ future, later.Spares r.name) → registry.resource? r.name = some r

theorem Registry.finds_nil (registry : Registry) :
    registry.Finds [] := fun past e future _ hhistory =>
  absurd hhistory (List.nil_ne_append_cons past e future)

theorem Registry.keep_finds :
    Exchange.Keep fun history registry => registry.Indexed ∧ registry.Finds history := by
  rintro history b op ⟨hindexed, hfinds⟩
  refine ⟨RegistryOp.indexed_run hindexed op, ?_⟩
  intro past e future r hhistory hregistered hspares
  obtain ⟨rfl, rfl, rfl⟩ | ⟨rest, hrest, rfl⟩ := List.concat_eq_append_cons hhistory
  · exact RegistryOp.resource?_of_registered? hindexed hregistered
  · obtain ⟨hbefore, hnow⟩ := List.forall_mem_append.1 hspares
    rw [RegistryOp.resource?_of_spares hindexed (hnow _ (List.mem_singleton_self _))]
    exact hfinds past e rest r hrest hregistered hbefore

namespace Session

/-- **Handles of one object share it, and nothing else is shared**: neither names nor configurations
count. -/
structure Separate (s : Session) (held : List Resource) : Prop where
  /-- Handles of one object are one handle. -/
  one : ∀ a ∈ held, ∀ b ∈ held, a.sameAs b = true → a = b
  /-- Whoever has one sees the same content. -/
  shared : ∀ a b : Resource, a.sameAs b = true →
    s.workspace.contents.content a = s.workspace.contents.content b
  /-- The entries of registries are handles. -/
  entries : ∀ (i : Nat) (registry : Registry), s.registries[i]? = some registry →
    ∀ name r, registry.resource? name = some r → r ∈ held
  /-- A declaration makes an object that no handle is of, and that is empty. -/
  declared : ∀ i op r, (s.step (.on i op)).1 = .on (.resource r) →
    (∀ old ∈ held, old.sameAs r = false) ∧
      (s.step (.on i op)).2.workspace.contents.content r = .empty r.kind
  /-- What is done through handles changes the objects of these handles, and no others. -/
  changed : ∀ op, ∀ r ∈ held,
    (s.step (.locally op)).2.workspace.contents.content r =
      Effect.replay r (op.effects s.workspace) (s.workspace.contents.content r)
  /-- So what is done through other handles is not seen. -/
  apart : ∀ op, ∀ r ∈ held, (∀ e ∈ op.effects s.workspace, e.target ∈ held ∧ e.target ≠ r) →
    (s.step (.locally op)).2.workspace.contents.content r = s.workspace.contents.content r
  /-- What is done to a registry changes no object, be it served or refused. -/
  unchanged : ∀ i op, ∀ r ∈ held,
    (s.step (.on i op)).2.workspace.contents.content r = s.workspace.contents.content r

/-- What handles account for is separate — the account says all that is needed of the session,
whichever run led to it. -/
theorem Accounted.separate {s : Session} {held : List Resource} (h : s.Accounted held)
    (hindexed : ∀ (i : Nat) (registry : Registry), s.registries[i]? = some registry →
      registry.Indexed) : s.Separate held where
  one a ha b hb := h.objects.eq_of_sameAs ha hb
  shared a b := s.workspace.contents.content_of_sameAs
  entries i registry hr name r hfound :=
    h.registered hr r (((hindexed i registry hr).resource?_eq_some_iff.1 hfound).1)
  declared i op r := h.declared
  changed op r hheld := content_step (h.objects.live r hheld) (.locally op)
  apart op r hheld hother := by
    refine (content_step (h.objects.live r hheld) (.locally op)).trans ?_
    refine Effect.replay_of_forall (fun e he => Bool.eq_false_iff.2 fun hsame => ?_) _
    obtain ⟨htarget, hne⟩ := hother e he
    exact hne (h.objects.eq_of_sameAs htarget hheld hsame)
  unchanged i op r _ := s.content_step_on i op r

/-- **Handles and entries are objects.**  After every genuine run handles of one object share it and
nothing else is shared; an object contains what all that was done through its handles made of
nothing; and under a name is found what was last registered under it since the last reset. -/
theorem handles_are_objects (settings : List Settings) (requests : List Request)
    (hgenuine : (start settings).Genuine requests) :
    let s := ((start settings).run requests).2
    let held := (start settings).handles requests
    s.Separate held ∧
      (∀ r ∈ held, s.workspace.contents.content r =
        Effect.replay r ((start settings).effects requests) (.empty r.kind)) ∧
      ∀ (i : Nat) (registry : Registry), s.registries[i]? = some registry →
        registry.Finds ((start settings).exchanges i requests) := by
  intro s held
  have haccounted := Accounted.run_start hgenuine
  refine ⟨haccounted.separate fun _ _ => indexed_run, content_run_start hgenuine,
    fun i registry hr => ?_⟩
  have hfound := registry_run_start (fun own _ =>
    ⟨Registry.indexed_withSettings own, Registry.finds_nil _⟩) Registry.keep_finds hr
  exact hfound.2

/-- A table whose name was declared again: what is put through the old handle stays out of the new
one. -/
theorem handles_are_objects_of_overwrite :
    let old : Table := ⟨0, { name := "users" }⟩
    let new : Table := ⟨1, { name := "users" }⟩
    let item : Json := .obj [("id", .bool true)]
    let front : List Request := [.on 0 (.declareTable old.config), .on 0 (.declareTable new.config)]
    let requests := front ++ [.locally (.put old (.json item))]
    let s := start [{}]
    let contents := (s.run requests).2.workspace.contents
    s.Genuine requests ∧ contents.content (.table new) = .items {} ∧
      contents.content (.table old) = .items (({} : Items).insert "true" item) := by
  intro old new item front requests s contents
  have hold : old.config.validate = .ok () :=
    TableConfig.validate_eq_ok_iff.2 ⟨by decide, by decide⟩
  have hhandles : s.handles front = [.table old, .table new] := by
    simp [handles, front, s, run, step, start, RegistryOp.run, Workbench.declareResource,
      Workbench.declareTable, hold, Workbench.putResource, Registry.withSettings,
      Registry.putResource, Resource.name, Workbench.report, Workbench.modifyRegistry,
      Workbench.modifyContents, old, new]
    rfl
  have hgenuine : s.Genuine requests := by
    have hfirst : s.Genuine [.on 0 (.declareTable old.config)] := s.genuine_nil.concat trivial
    have hfront : s.Genuine front := hfirst.concat trivial
    exact hfront.concat (hhandles ▸ List.mem_cons_self)
  have hheld : s.handles requests = [.table old, .table new] := by
    rw [handles_concat, hhandles]
    rfl
  obtain ⟨-, hcontent, -⟩ := handles_are_objects [{}] requests hgenuine
  refine ⟨hgenuine, (hcontent (.table new) ?_).trans ?_, (hcontent (.table old) ?_).trans ?_⟩
  · exact hheld ▸ List.mem_cons_of_mem _ List.mem_cons_self
  · rfl
  · exact hheld ▸ List.mem_cons_self
  · rfl

end Session

end BackendPlan
