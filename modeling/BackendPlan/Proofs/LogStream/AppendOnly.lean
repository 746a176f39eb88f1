import BackendPlan.Proofs.Registry.Journal
import BackendPlan.Proofs.Session.Trace

/-!
# Proofs/LogStream/AppendOnly — a log is the list of what was appended to it

Every call on a log stream comes down to one appending, or to none.  So the entries of a stream, the
answers of the calls on it and the journal can all be told from the calls alone:

    entries   ◂—`toStream`—   appended   —`event`→   "log append" in the journal

* `LogStream.fst_serve`, `snd_serve_of_some`, `snd_serve_of_none` — one call, by the entry that it
  makes.
* `Workspace.Logs` — **between two workspaces logs and journal went the way of the calls.**
* `Logs.run` — they do in a run of requests.
* `Session.logs_append_only` — so from its declaration on, a log is what was appended to it.
-/

namespace BackendPlan

/-! ## The rules -/

namespace LogStream

/-- What a call answers, of a log with given entries: a payload is recorded if it makes an entry
(`made?`). -/
def Call.answer (log : List LogEntry) : Call → Answer
  | info .. | audit .. => .done
  | write time data => .recorded (write time data).made?.isSome
  | entries => .entries log

/-- **What calls answer**, one after another — each adds the entry that it makes (`made?`) to the
log of the next. -/
def replay (log : List LogEntry) : List Call → List Answer
  | [] => []
  | call :: calls => call.answer log :: replay (log ++ call.made?.toList) calls

theorem replay_append (log : List LogEntry) (front back : List Call) :
    replay log (front ++ back) =
      replay log front ++ replay (log ++ front.filterMap Call.made?) back := by
  induction front generalizing log with
  | nil =>
    rw [List.nil_append, List.filterMap_nil, List.append_nil]
    rfl
  | cons call front ih =>
    have hadded : call.made?.toList ++ front.filterMap Call.made? =
        (call :: front).filterMap Call.made? := by
      rw [List.filterMap_cons]
      cases call.made? <;> rfl
    rw [List.cons_append, replay, ih, List.append_assoc, hadded]
    rfl

/-! ## One call -/

variable {l : LogStream} {call : Call} {w : Workspace}

/-- **A call is answered by the rules**, by `Call.answer` of the log as it is in the workspace. -/
theorem fst_serve (l : LogStream) (call : Call) (w : Workspace) :
    (l.serve call w).1 = call.answer (l.entries w) := by
  cases call with
  | write time data =>
    rw [serve, write, Call.answer, Call.made?]
    cases data.encode <;> rfl
  | info | audit | entries => rfl

/-- **A call that makes an entry appends it** — `info`, `audit` and `write` all come down to
`append`. -/
theorem snd_serve_of_some {entry : LogEntry} (h : call.made? = some entry) :
    (l.serve call w).2 = l.append entry w := by
  cases call with
  | info time message fields | audit time message fields =>
    obtain rfl := Option.some.inj h
    rfl
  | write time data =>
    rw [Call.made?] at h
    rw [serve, write]
    cases hdata : data.encode with
    | error cause =>
      rw [hdata] at h
      cases h
    | ok value =>
      rw [hdata] at h
      obtain rfl := Option.some.inj h
      rfl
  | entries => cases h

/-- **A call that makes none changes no contents**, and reports no appending — a `write` that fails
reports a warning. -/
theorem snd_serve_of_none (h : call.made? = none) :
    (l.serve call w).2.contents = w.contents ∧ ∃ events,
      (l.serve call w).2.journal = w.journal ++ events ∧
        Event.withMessage "log append" events = [] := by
  cases call with
  | info time message fields | audit time message fields => cases h
  | write time data =>
    rw [Call.made?] at h
    rw [serve, write]
    cases hdata : data.encode with
    | error cause => exact ⟨rfl, [.entryNotEncodable l.name cause], rfl, rfl⟩
    | ok value =>
      rw [hdata] at h
      cases h
  | entries => exact ⟨rfl, [], (List.append_nil _).symm, rfl⟩

/-- One call appends what it `made?`. -/
theorem filterMap_access (l : LogStream) (call : Call) (w : Workspace) :
    [l.access call w].filterMap LogAccess.appended? = (call.made?.map (Appended.mk l)).toList := by
  rw [List.filterMap_cons, List.filterMap_nil, LogAccess.appended?, access]
  cases call.made? <;> rfl

/-- The one call is answered by the rules, and a call on another stream is none. -/
theorem answers_access (l : LogStream) (call : Call) (w : Workspace) (id : Nat) :
    (LogAccess.ofStream id [l.access call w]).map LogAccess.answer =
      replay (w.contents.entries id)
        ((LogAccess.ofStream id [l.access call w]).map LogAccess.call) := by
  by_cases hid : l.id = id
  · subst hid
    have hown : LogAccess.ofStream l.id [l.access call w] = [l.access call w] :=
      LogAccess.ofStream_cons_self rfl []
    rw [hown]
    exact congrArg (fun answer => [answer]) (l.fst_serve call w)
  · have hother : LogAccess.ofStream id [l.access call w] = [] :=
      LogAccess.ofStream_cons_of_ne hid []
    rw [hother]
    rfl

/-- **Appending an entry adds it to its own stream** and to no other — the stream must be there, as
`modifyLog` makes none. -/
theorem entries_append (l : LogStream) (entry : LogEntry) {id : Nat}
    (hid : id < w.contents.logs.size) :
    (l.append entry w).contents.entries id =
      w.contents.entries id ++ Appended.toStream id [⟨l, entry⟩] := by
  refine (Contents.entries_modifyEntries _ _ _ _).trans ?_
  by_cases hown : l.id = id
  · subst hown
    have hadded : Appended.toStream l.id [⟨l, entry⟩] = [entry] :=
      Appended.toStream_cons_self rfl []
    rw [if_pos ⟨rfl, hid⟩, hadded]
    rfl
  · have hadded : Appended.toStream id [⟨l, entry⟩] = [] := Appended.toStream_cons_of_ne hown []
    rw [if_neg fun h => hown h.1.symm, hadded]
    exact (List.append_nil _).symm

end LogStream

/-! ## Runs

Runs are put together from calls, so the statement is shown for one call and for two runs in a
row. -/

/-- **Between two workspaces logs and journal went the way of the calls**: every log that was there
has what was appended to it after what it had, its calls were answered by the rules, and the journal
has an event for everything appended. -/
structure Workspace.Logs (w : Workspace) (accesses : List LogAccess) (w' : Workspace) : Prop where
  size_le : w.contents.logs.size ≤ w'.contents.logs.size
  entries : ∀ id < w.contents.logs.size, w'.contents.entries id =
    w.contents.entries id ++ Appended.toStream id (accesses.filterMap LogAccess.appended?)
  answers : ∀ id < w.contents.logs.size, (LogAccess.ofStream id accesses).map LogAccess.answer =
    LogStream.replay (w.contents.entries id) ((LogAccess.ofStream id accesses).map LogAccess.call)
  journal : ∃ events, w'.journal = w.journal ++ events ∧ Event.withMessage "log append" events =
    (accesses.filterMap LogAccess.appended?).map Appended.event

namespace Workspace.Logs

variable {w w' w'' : Workspace}

/-- Without an access nothing happens to the logs — what else is reported is no appending. -/
theorem of_silent (hsize : w.contents.logs.size ≤ w'.contents.logs.size)
    (hentries : ∀ id, w'.contents.entries id = w.contents.entries id) (events : List Event)
    (hjournal : w'.journal = w.journal ++ events)
    (hsilent : Event.withMessage "log append" events = []) : w.Logs [] w' where
  size_le := hsize
  entries id _ := (hentries id).trans (List.append_nil _).symm
  answers _ _ := rfl
  journal := ⟨events, hjournal, hsilent⟩

theorem refl (w : Workspace) : w.Logs [] w :=
  of_silent (Nat.le_refl _) (fun _ => rfl) [] (List.append_nil _).symm rfl

theorem append {front back : List LogAccess} (hf : w.Logs front w') (hb : w'.Logs back w'') :
    w.Logs (front ++ back) w'' where
  size_le := hf.size_le.trans hb.size_le
  entries id hid := by
    rw [hb.entries id (hid.trans_le hf.size_le), hf.entries id hid, List.filterMap_append,
      Appended.toStream_append, List.append_assoc]
  answers id hid := by
    rw [LogAccess.ofStream_append, List.map_append, List.map_append, LogStream.replay_append,
      ← LogAccess.toStream_filterMap, ← hf.entries id hid, hf.answers id hid,
      hb.answers id (hid.trans_le hf.size_le)]
  journal := by
    obtain ⟨events, hjournal, hevents⟩ := hf.journal
    obtain ⟨events', hjournal', hevents'⟩ := hb.journal
    refine ⟨events ++ events', ?_, ?_⟩
    · rw [hjournal', hjournal, List.append_assoc]
    · rw [Event.withMessage_append, hevents, hevents', List.filterMap_append, List.map_append]

/-- **One call on a log stream** — it makes an entry or none, which is all that `Logs` tells
apart. -/
theorem serve (l : LogStream) (call : LogStream.Call) (w : Workspace) :
    w.Logs [l.access call w] (l.serve call w).2 := by
  have happended := l.filterMap_access call w
  cases hentry : call.made? with
  | none =>
    obtain ⟨hcontents, events, hjournal, hsilent⟩ :=
      LogStream.snd_serve_of_none (l := l) (w := w) hentry
    rw [hentry] at happended
    exact {
      size_le := (congrArg (·.logs.size) hcontents).ge
      entries := fun id _ => by
        rw [hcontents, happended]
        exact (List.append_nil _).symm
      answers := fun id _ => l.answers_access call w id
      journal := ⟨events, hjournal, by rw [hsilent, happended]; rfl⟩ }
  | some entry =>
    have hnext : (l.serve call w).2 = l.append entry w := LogStream.snd_serve_of_some hentry
    rw [hentry] at happended
    exact {
      size_le := by
        rw [hnext]
        exact Array.size_modify.ge
      entries := fun id hid => by
        rw [hnext, happended]
        exact l.entries_append entry hid
      answers := fun id _ => l.answers_access call w id
      journal := ⟨[Appended.event ⟨l, entry⟩], by rw [hnext]; rfl, by rw [happended]; rfl⟩ }

/-- What is stored in a table is nothing to a log — though a `put` that is refused is reported. -/
theorem put (t : Table) (data : Payload) (w : Workspace) : w.Logs [] (t.put data w).2 := by
  rw [Table.put]
  cases data.encode with
  | error cause =>
    exact of_silent (Nat.le_refl _) (fun _ => rfl) [.itemNotEncodable t.name cause] rfl rfl
  | ok item =>
    dsimp only
    cases t.keyOf? item with
    | none =>
      exact of_silent (Nat.le_refl _) (fun _ => rfl)
        [.itemWithoutKey t.name t.config.partitionKey] rfl rfl
    | some key => exact of_silent (Nat.le_refl _) (fun _ => rfl) [] (List.append_nil _).symm rfl

theorem serve_table (t : Table) (call : Table.Call) (w : Workspace) :
    w.Logs [] (t.serve call w).2 := by
  cases call with
  | put data => exact put t data w
  | update key data =>
    rw [Table.serve, Table.update]
    cases Items.keyText key <;>
      exact of_silent (Nat.le_refl _) (fun _ => rfl) [] (List.append_nil _).symm rfl
  | delete key =>
    rw [Table.serve, Table.delete]
    cases Items.keyText key <;>
      exact of_silent (Nat.le_refl _) (fun _ => rfl) [] (List.append_nil _).symm rfl
  | get key | scan => exact refl w

/-- **Every call keeps logs and journal in step** — `Course.run` makes of it the statement about
runs. -/
theorem course : Course fun w trace w' => w.Logs (trace.filterMap Deed.logAccess?) w' where
  nil := refl
  append hfront hback := List.filterMap_append ▸ hfront.append hback
  table := serve_table
  stream := serve

end Workspace.Logs

/-! ## Requests -/

/-- **An operation on a registry reports no appending** — its events have other messages than "log
append". -/
theorem Registry.Reported.withMessage_eq_nil {r next : Registry} {op : RegistryOp}
    {reply : RegistryReply} {events : List Event} (h : r.Reported op reply events next) :
    Event.withMessage "log append" events = [] := by
  cases h with
  | refused | layered | imported | edited | reset => rfl
  | registered =>
    rw [Registry.registration]
    split <;> rfl
  | declared =>
    rw [Registry.replacement?]
    cases r.application <;> rfl
  | set =>
    rw [Registry.replacement?]
    cases r.application <;> rfl
  | decorated =>
    rw [Registry.reconciliation?]
    split
    · rfl
    · cases ((r.setPending _ _).pending _).route <;> rfl

namespace Workspace.Logs

/-- Nor does it touch a log: at most it makes one. -/
theorem registryOp {b : Workbench} (hb : b.registry.Indexed) (op : RegistryOp) :
    b.workspace.Logs [] (op.run b).2.workspace := by
  have hsilent := (RegistryOp.reported hb op).withMessage_eq_nil
  rcases op.contents_run b with hcontents | ⟨kind, hcontents⟩
  · exact of_silent (congrArg (·.logs.size) hcontents).ge (fun _ => by rw [hcontents]) _
      (op.journal_run b) hsilent
  · have hcount := b.workspace.contents.count_make kind .logStream
    refine of_silent ?_ (fun id => ?_) _ (op.journal_run b) hsilent
    · rw [hcontents]
      simp only [Contents.count] at hcount
      split at hcount <;> omega
    · rw [hcontents, Contents.entries_make]

/-- **A run of requests**, where index and resources of the registries are in step — `Indexed`, as
`Reported` asks. -/
theorem run {s : Session}
    (hs : ∀ (i : Nat) (registry : Registry), s.registries[i]? = some registry → registry.Indexed)
    (requests : List Request) :
    s.workspace.Logs (s.logAccesses requests) (s.run requests).2.workspace :=
  course.run (fun _ op hb => RegistryOp.indexed_run hb op)
    (fun _ op hb => registryOp hb op) hs requests

end Workspace.Logs

/-! ## From the declaration on -/

/-- **The stream is append-only** while the session serves the requests: in what it shows, what it
answers and what is told of it. -/
structure LogStream.AppendOnly (l : LogStream) (s : Session) (requests : List Request) : Prop where
  /-- Every handle of the stream shows what was appended through such handles, and nothing else. -/
  entries : ∀ h : LogStream, (Resource.logStream h).sameAs (.logStream l) = true →
    h.entries (s.run requests).2.workspace = Appended.toStream l.id (s.appended requests)
  /-- The calls on it were answered by the rules, those of handlers included. -/
  answers :
    let own := LogAccess.ofStream l.id (s.logAccesses requests)
    own.map LogAccess.answer = LogStream.replay [] (own.map LogAccess.call)
  /-- At any two points, the later entries are the earlier ones and what was appended in between. -/
  grows : ∀ early late, requests = early ++ late →
    l.entries (s.run requests).2.workspace =
      l.entries (s.run early).2.workspace ++
        Appended.toStream l.id ((s.run early).2.appended late)
  /-- The journal tells of everything appended in between once, in order, and of no other
  appending. -/
  mirrored : ∀ early late, requests = early ++ late → ∃ events,
    (s.run requests).2.workspace.journal = (s.run early).2.workspace.journal ++ events ∧
      Event.withMessage "log append" events = ((s.run early).2.appended late).map Appended.event

namespace Session

/-- **A declared log is empty** — its number is the next one, at the end of the list. -/
theorem entries_of_declareLogStream {s s' : Session} {i : Nat} {config : LogStreamConfig}
    {l : LogStream}
    (hdecl : s.step (.on i (.declareLogStream config)) = (.on (.resource (.logStream l)), s')) :
    l.id < s'.workspace.contents.logs.size ∧ s'.workspace.contents.entries l.id = [] := by
  cases hr : s.registries[i]? with
  | none =>
    rw [step_on_of_getElem?_eq_none hr] at hdecl
    exact absurd (congrArg Prod.fst hdecl) nofun
  | some registry =>
    rw [step_on hr] at hdecl
    obtain ⟨hreply, rfl⟩ := Prod.mk.inj hdecl
    obtain ⟨-, hid, -, hcontents⟩ := RegistryOp.run_of_reply_resource (Reply.on.inj hreply)
    have hid : l.id = s.workspace.contents.logs.size := hid
    rw [hcontents, hid, Contents.entries_make]
    refine ⟨?_, ?_⟩
    · simp [Contents.make, Contents.newLog, Resource.kind]
    · simp [Contents.entries]

/-- **Log streams are append-only.**  In every session and from the declaration of a stream on,
whatever is served: what the stream shows through every handle is what was appended through its
handles, by callers and by handlers, one entry for each call that makes one; so the entries only
grow, and the journal tells of each entry with its level and its message. -/
theorem logs_append_only (settings : List Settings) (front : List Request) {i : Nat}
    {config : LogStreamConfig} {l : LogStream} {s' : Session}
    (hdecl : ((start settings).run front).2.step (.on i (.declareLogStream config)) =
      (.on (.resource (.logStream l)), s')) (requests : List Request) :
    l.AppendOnly s' requests := by
  obtain ⟨hlive, hempty⟩ := entries_of_declareLogStream hdecl
  have hstart : ((start settings).run (front ++ [.on i (.declareLogStream config)])).2 = s' := by
    rw [run_append]
    exact congrArg Prod.snd hdecl
  have hindexed : ∀ (i : Nat) (registry : Registry),
      s'.registries[i]? = some registry → registry.Indexed :=
    fun _ _ hr => indexed_run (hstart ▸ hr)
  have hlogs := Workspace.Logs.run hindexed requests
  have hentries : (s'.run requests).2.workspace.contents.entries l.id =
      Appended.toStream l.id (s'.appended requests) := by
    rw [hlogs.entries l.id hlive, hempty]
    rfl
  have hbetween : ∀ early late, requests = early ++ late →
      (s'.run early).2.workspace.Logs ((s'.run early).2.logAccesses late)
        (s'.run requests).2.workspace := by
    rintro early late rfl
    have hearly : ((start settings).run (front ++ [.on i (.declareLogStream config)] ++ early)).2 =
        (s'.run early).2 := by
      rw [run_append, hstart]
    rw [run_append]
    exact Workspace.Logs.run (fun _ _ hr => indexed_run (hearly ▸ hr)) late
  refine ⟨fun h hsame => ?_, ?_, fun early late hsplit => ?_, fun early late hsplit => ?_⟩
  · have hid : h.id = l.id := (Resource.sameAs_iff.1 hsame).2
    rw [LogStream.entries, hid, hentries]
  · intro own
    rw [hlogs.answers l.id hlive, hempty]
  · have hearly : l.id < (s'.run early).2.workspace.contents.logs.size :=
      hlive.trans_le (Workspace.Logs.run hindexed early).size_le
    exact (hbetween early late hsplit).entries l.id hearly
  · exact (hbetween early late hsplit).journal

/-- `null` is a payload; what cannot be encoded is none. -/
theorem logs_append_only_of_null_payload :
    let l : LogStream := ⟨0, { name := "trail" }⟩
    let time : Timestamp := ⟨⟨2024, 2, 29, by decide, by decide⟩, 0, 0, 0, 0⟩
    let s := start [{}]
    let s' := (s.step (.on 0 (.declareLogStream l.config))).2
    let requests : List Request := [.locally (.info l time "login" []),
      .locally (.write l time (.json .null)), .locally (.write l time .unkeyable), .on 0 .reset]
    s.step (.on 0 (.declareLogStream l.config)) = (.on (.resource (.logStream l)), s') ∧
      l.entries (s'.run requests).2.workspace =
        [{ level := .info, message := some "login", time := time },
          { level := .write, entry := some .null, time := time }] ∧
      ∃ events, (s'.run requests).2.workspace.journal = s'.workspace.journal ++ events ∧
        Event.withMessage "log append" events =
          [.entryAppended "trail" .info "login", .entryAppended "trail" .write ""] := by
  intro l time s s' requests
  have hvalid : l.config.validate = .ok () := Config.requireText_eq_ok_iff.2 (by decide)
  have hdecl : s.step (.on 0 (.declareLogStream l.config)) =
    (.on (.resource (.logStream l)), s') := by
    refine Prod.ext ?_ rfl
    simp [s, l, start, step, RegistryOp.run, Workbench.declareResource, Workbench.declareLogStream,
      hvalid, Workbench.putResource, Registry.withSettings, RegistryReply.ofResult]
  have honly : l.AppendOnly s' requests :=
    logs_append_only [{}] [] hdecl requests
  exact ⟨hdecl, honly.entries l rfl, honly.mirrored [] requests rfl⟩

end Session

end BackendPlan
