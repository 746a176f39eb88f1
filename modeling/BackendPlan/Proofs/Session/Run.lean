import BackendPlan.Proofs.Lists
import BackendPlan.Proofs.Registry.Run

/-!
# Proofs/Session/Run — a run of requests, as one of its registries sees it

A session serves requests to many registries and through many handles.  A registry sees of it the
**exchanges** with itself: the operations it was asked for, each with its reply.

* `step_of_getElem?` — one request is an exchange with a registry, or leaves the registry alone.
* `Session.registry_run` — what every exchange keeps, a run keeps, whatever else it serves.
-/

namespace BackendPlan

/-- **An operation on a registry, with the reply it got**: what the registry and its caller both
know. -/
structure Exchange where
  op : RegistryOp
  reply : RegistryReply

/-- The operation with the reply that a `Workbench` gives it. -/
def RegistryOp.exchange (op : RegistryOp) (b : Workbench) : Exchange := ⟨op, (op.run b).1⟩

namespace Exchange

/-- **The exchanges since the last reset** — `reset` itself is not among them. -/
def sinceReset (history : List Exchange) : List Exchange :=
  history.rtakeWhile fun e => !e.op.isReset

theorem sinceReset_concat (history : List Exchange) (e : Exchange) :
    sinceReset (history ++ [e]) = if e.op.isReset then [] else sinceReset history ++ [e] := by
  rw [sinceReset, List.rtakeWhile_concat, sinceReset]
  cases e.op.isReset <;> rfl

/-- **Every exchange keeps a property** of the history so far and of the registry it led to — the
step hypothesis of `registry_run`, over all workspaces. -/
def Keep (P : List Exchange → Registry → Prop) : Prop :=
  ∀ history (b : Workbench) (op : RegistryOp), P history b.registry →
    P (history ++ [op.exchange b]) (op.run b).2.registry

end Exchange

namespace Session

/-- `run` is one part of it after the other: the replies are appended, the second part starts where
the first ends. -/
theorem run_append (s : Session) (front back : List Request) :
    s.run (front ++ back) =
      ((s.run front).1 ++ ((s.run front).2.run back).1, ((s.run front).2.run back).2) := by
  induction front generalizing s with
  | nil => rfl
  | cons request front ih =>
    rw [List.cons_append, run, run]
    dsimp only
    rw [ih]
    rfl

/-! ## Exchanges -/

/-- The exchange with registry `i` that a request makes, if it is addressed to it. -/
def exchange? (s : Session) (i : Nat) (request : Request) : Option Exchange :=
  match request, (s.step request).1 with
  | .on j op, .on reply => if j = i then some ⟨op, reply⟩ else none
  | _, _ => none

/-- **The exchanges with registry `i`** while the session serves requests — requests to others and
through handles leave no trace in them. -/
def exchanges (s : Session) (i : Nat) : List Request → List Exchange
  | [] => []
  | request :: requests =>
    (s.exchange? i request).toList ++ exchanges (s.step request).2 i requests

variable {s : Session} {i : Nat} {registry : Registry}

theorem step_on (hr : s.registries[i]? = some registry) (op : RegistryOp) :
    s.step (.on i op) =
      (.on (op.run ⟨registry, s.workspace⟩).1,
        ⟨s.registries.setIfInBounds i (op.run ⟨registry, s.workspace⟩).2.registry,
          (op.run ⟨registry, s.workspace⟩).2.workspace⟩) := by
  simp only [step, hr]

theorem step_on_of_getElem?_eq_none (hr : s.registries[i]? = none) (op : RegistryOp) :
    s.step (.on i op) = (.noRegistry, s) := by
  simp only [step, hr]

/-- **One request, as a registry sees it** — it makes no exchange and leaves the registry as it is,
or it is an operation on the registry. -/
theorem step_of_getElem? (hr : s.registries[i]? = some registry) (request : Request) :
    (s.exchange? i request = none ∧ (s.step request).2.registries[i]? = some registry) ∨
      ∃ op : RegistryOp, s.exchange? i request = some (op.exchange ⟨registry, s.workspace⟩) ∧
        (s.step request).2.registries[i]? = some (op.run ⟨registry, s.workspace⟩).2.registry := by
  cases request with
  | locally op => exact .inl ⟨rfl, hr⟩
  | on j op =>
    by_cases hij : j = i
    · subst hij
      refine .inr ⟨op, ?_, ?_⟩
      · simp only [exchange?, step_on hr, if_pos]
        rfl
      · rw [step_on hr, Array.getElem?_setIfInBounds, if_pos rfl,
          if_pos (Array.getElem?_eq_some_iff.1 hr).1]
    · refine .inl ?_
      cases hj : s.registries[j]? with
      | none =>
        rw [step_on_of_getElem?_eq_none hj]
        simp only [exchange?, step_on_of_getElem?_eq_none hj]
        exact ⟨trivial, hr⟩
      | some other =>
        simp only [exchange?, step_on hj, if_neg hij]
        rw [Array.getElem?_setIfInBounds, if_neg hij]
        exact ⟨trivial, hr⟩

/-- A session neither gains nor loses registries. -/
theorem getElem?_step_eq_none (hr : s.registries[i]? = none) (request : Request) :
    (s.step request).2.registries[i]? = none := by
  cases request with
  | locally op => exact hr
  | on j op =>
    cases hj : s.registries[j]? with
    | none => rwa [step_on_of_getElem?_eq_none hj]
    | some other =>
      rw [step_on hj]
      have hsize := Array.getElem?_eq_none_iff.1 hr
      exact Array.getElem?_eq_none (Array.size_setIfInBounds.trans_le hsize)

/-- **What operations keep of every registry, a request keeps** — addressed or not, since the others
stay as they are. -/
theorem forall_registries_step {I : Registry → Prop}
    (hI : ∀ (b : Workbench) (op : RegistryOp), I b.registry → I (op.run b).2.registry)
    (hs : ∀ (i : Nat) (registry : Registry), s.registries[i]? = some registry → I registry)
    (request : Request) :
    ∀ (i : Nat) (registry : Registry), (s.step request).2.registries[i]? = some registry →
      I registry := by
  intro i registry hr
  cases hbefore : s.registries[i]? with
  | none =>
    rw [getElem?_step_eq_none hbefore] at hr
    exact absurd hr nofun
  | some old =>
    have hold := hs i old hbefore
    rcases step_of_getElem? hbefore request with ⟨-, hnext⟩ | ⟨op, -, hnext⟩
    · exact Option.some.inj (hnext.symm.trans hr) ▸ hold
    · exact Option.some.inj (hnext.symm.trans hr) ▸ hI ⟨old, s.workspace⟩ op hold

/-! ## Runs

The one induction over runs that statements about registries need: a property of the history so far
and the registry it led to, kept by every operation on whatever workspace, is kept by a run. -/

/-- **What every exchange keeps, a run keeps** — for any history to begin with, so that the
induction on the requests goes through. -/
theorem registry_run {P : List Exchange → Registry → Prop}
    (hkept : Exchange.Keep P)
    (requests : List Request) (hr : s.registries[i]? = some registry) {history : List Exchange}
    (hP : P history registry) :
    ∃ last, (s.run requests).2.registries[i]? = some last ∧
      P (history ++ s.exchanges i requests) last := by
  induction requests generalizing s registry history with
  | nil =>
    rw [exchanges, List.append_nil]
    exact ⟨registry, hr, hP⟩
  | cons request requests ih =>
    rw [exchanges]
    rcases step_of_getElem? hr request with ⟨hnone, hnext⟩ | ⟨op, hsome, hnext⟩
    · rw [hnone]
      exact ih hnext hP
    · rw [hsome, Option.toList_some, ← List.append_assoc]
      exact ih hnext (hkept history ⟨registry, s.workspace⟩ op hP)

theorem getElem?_run_eq_none (hr : s.registries[i]? = none) (requests : List Request) :
    (s.run requests).2.registries[i]? = none := by
  induction requests generalizing s with
  | nil => exact hr
  | cons request requests ih => exact ih (getElem?_step_eq_none hr request)

/-- **The same from the start** — a registry of a session begins without declarations, with the
settings given for it. -/
theorem registry_run_start {P : List Exchange → Registry → Prop} {settings : List Settings}
    (hnew : ∀ own, settings[i]? = some own → P [] (.withSettings own))
    (hkept : Exchange.Keep P)
    {requests : List Request}
    (hr : ((start settings).run requests).2.registries[i]? = some registry) :
    P ((start settings).exchanges i requests) registry := by
  have hstart : (start settings).registries[i]? = settings[i]?.map Registry.withSettings := by
    rw [start, List.getElem?_toArray, List.getElem?_map]
  cases hown : settings[i]? with
  | none =>
    rw [hown, Option.map_none] at hstart
    rw [getElem?_run_eq_none hstart] at hr
    exact absurd hr nofun
  | some own =>
    rw [hown, Option.map_some] at hstart
    obtain ⟨last, hlast, hP⟩ := registry_run hkept requests hstart (hnew own hown)
    obtain rfl : last = registry := Option.some.inj (hlast.symm.trans hr)
    exact hP

end Session

end BackendPlan
