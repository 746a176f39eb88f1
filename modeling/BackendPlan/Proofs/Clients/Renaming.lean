import BackendPlan.Proofs.Registry.Outcome
import Mathlib.Logic.Equiv.Basic

/-!
# Proofs/Clients/Renaming — objects under other numbers

Objects are numbered per kind in the order of their making, so the numbers that a caller gets depend
on what others make in between.  A **renaming** permutes the numbers of each kind; names, kinds and
configurations stay.  Whatever carries a handle is renamed with it, handlers through what they have
captured.

* `Renaming.resource`, `Renaming.op`, `Renaming.reply` — handles, operations and replies, renamed.
* `Renaming.exists_numbers` — **handles of objects that are new and distinct can be renamed to the
  next numbers**, in their order and without touching the objects that were there.
-/

namespace BackendPlan

/-- **A renaming of objects**: an `Equiv.Perm` for each kind, so that it can be undone and never
makes two objects one. -/
def Renaming := ResourceKind → Equiv.Perm Nat

namespace Renaming

/-! ## What is renamed -/

section Renamed

variable (ρ : Renaming)

/-- A table under its other number. -/
def table (t : Table) : Table := { t with id := ρ .table t.id }

/-- A log stream under its other number. -/
def logStream (l : LogStream) : LogStream := { l with id := ρ .logStream l.id }

/-- An identity pool under its other number. -/
def identityPool (p : IdentityPool) : IdentityPool := { p with id := ρ .identityPool p.id }

/-- **A resource under its other number**: name and configuration stay. -/
def resource : Resource → Resource
  | .table t => .table (ρ.table t)
  | .logStream l => .logStream (ρ.logStream l)
  | .identityPool p => .identityPool (ρ.identityPool p)

/-- A script that goes by the renamed handles — its continuations are asked for the same answers. -/
def script : Script → Script
  | .answer output => .answer output
  | .put t data next => .put (ρ.table t) data fun stored => script (next stored)
  | .update t key data next => .update (ρ.table t) key data (script next)
  | .delete t key next => .delete (ρ.table t) key (script next)
  | .get t key next => .get (ρ.table t) key fun item => script (next item)
  | .scan t next => .scan (ρ.table t) fun items => script (next items)
  | .info l time message fields next => .info (ρ.logStream l) time message fields (script next)
  | .audit l time message fields next => .audit (ρ.logStream l) time message fields (script next)
  | .write l time data next => .write (ρ.logStream l) time data fun recorded =>
      script (next recorded)
  | .entries l next => .entries (ρ.logStream l) fun entries => script (next entries)

/-- A handler that goes by the renamed handles — it is the same handler, told by its `id`. -/
def handler (h : Handler) : Handler := { h with body := fun input => ρ.script (h.body input) }

/-- **An operation with what it was given renamed**: a handle or a handler; a declaration is given
neither. -/
def op : RegistryOp → RegistryOp
  | .putResource r => .putResource (ρ.resource r)
  | .route h spec => .route (ρ.handler h) spec
  | .auth h spec => .auth (ρ.handler h) spec
  | .middleware h => .middleware (ρ.handler h)
  | op => op

/-- **A reply with what it gives renamed.** -/
def reply : RegistryReply → RegistryReply
  | .resource r => .resource (ρ.resource r)
  | .handler h => .handler (ρ.handler h)
  | reply => reply

@[simp] theorem name_resource (r : Resource) : (ρ.resource r).name = r.name := by cases r <;> rfl

@[simp] theorem kind_resource (r : Resource) : (ρ.resource r).kind = r.kind := by cases r <;> rfl

@[simp] theorem id_resource (r : Resource) : (ρ.resource r).id = ρ r.kind r.id := by cases r <;> rfl

@[simp] theorem id_handler (h : Handler) : (ρ.handler h).id = h.id := rfl

@[simp] theorem name_handler (h : Handler) : (ρ.handler h).name = h.name := rfl

/-- Handles that are `sameAs` each other stay so, and no others become so — a permutation loses
nothing. -/
theorem sameAs_resource (a b : Resource) : (ρ.resource a).sameAs (ρ.resource b) = a.sameAs b := by
  rw [Bool.eq_iff_iff, Resource.sameAs_iff, Resource.sameAs_iff, kind_resource, kind_resource,
    id_resource, id_resource]
  refine and_congr_right fun hkind => ?_
  rw [hkind]
  exact (ρ b.kind).injective.eq_iff

end Renamed

/-! ## Renaming new objects to the next numbers -/

/-- The renaming leaves the objects that are there, those below `count`, as they are. -/
def Fixes (ρ : Renaming) (c : Contents) : Prop := ∀ kind n, n < c.count kind → ρ kind n = n

/-- **The handles are renamed to the next numbers**, in their order — each to the `count` that the
ones before it leave. -/
def Numbers (ρ : Renaming) (c : Contents) : List Resource → Prop
  | [] => True
  | r :: rs => ρ r.kind r.id = c.count r.kind ∧ ρ.Numbers (c.make r.kind) rs

/-- One renaming after another. -/
def trans (ρ ρ' : Renaming) : Renaming := fun kind => (ρ kind).trans (ρ' kind)

theorem resource_trans (ρ ρ' : Renaming) (r : Resource) :
    (ρ.trans ρ').resource r = ρ'.resource (ρ.resource r) := by cases r <;> rfl

/-- `Numbers` of a composed renaming is `Numbers` of the renamed handles. -/
theorem numbers_trans {ρ ρ' : Renaming} {c : Contents} {rs : List Resource} :
    (ρ.trans ρ').Numbers c rs ↔ ρ'.Numbers c (rs.map ρ.resource) := by
  induction rs generalizing c with
  | nil => exact Iff.rfl
  | cons r rs ih =>
    rw [List.map_cons, Numbers, Numbers, ih, id_resource, kind_resource]
    exact Iff.rfl

theorem map_resource_trans (ρ ρ' : Renaming) (rs : List Resource) :
    (rs.map ρ.resource).map ρ'.resource = rs.map (ρ.trans ρ').resource := by
  rw [List.map_map]
  exact List.map_congr_left fun r _ => (ρ.resource_trans ρ' r).symm

/-- Exchange the numbers `m` and `n` of one kind. -/
def exchange (kind : ResourceKind) (m n : Nat) : Renaming := fun other =>
  if other = kind then Equiv.swap m n else Equiv.refl Nat

theorem exchange_left (kind : ResourceKind) (m n : Nat) : exchange kind m n kind m = n := by
  rw [exchange, if_pos rfl, Equiv.swap_apply_left]

theorem exchange_of_ne {kind other : ResourceKind} {m n k : Nat}
    (h : other = kind → k ≠ m ∧ k ≠ n) :
    exchange kind m n other k = k := by
  rw [exchange]
  split
  · next hkind => exact Equiv.swap_apply_of_ne_of_ne (h hkind).1 (h hkind).2
  · rfl

/-- A handle of another object, once the first new one has traded its number for the next: its
number is beyond that. -/
theorem count_make_le_exchange {c : Contents} {x y : Resource} (hx : c.count x.kind ≤ x.id)
    (hy : c.count y.kind ≤ y.id) (hne : x.sameAs y = false) :
    (c.make x.kind).count y.kind ≤ exchange x.kind x.id (c.count x.kind) y.kind y.id := by
  rw [Contents.count_make, exchange]
  split
  · next hkind =>
    have hid : y.id ≠ x.id := fun hid =>
      Bool.eq_false_iff.1 hne (Resource.sameAs_iff.2 ⟨hkind.symm, hid.symm⟩)
    rw [hkind] at hy ⊢
    by_cases hnext : y.id = c.count x.kind
    · rw [hnext, Equiv.swap_apply_right]
      omega
    · rw [Equiv.swap_apply_of_ne_of_ne hid hnext]
      omega
  · exact hy

/-- Numbering handles that are renamed already — the first one trades its number for the next one
(`exchange`), and the others are renamed from there. -/
theorem exists_numbers_map (c : Contents) (σ : Renaming) {rs : List Resource}
    (hnew : ∀ r ∈ rs, c.count r.kind ≤ (σ.resource r).id)
    (hdistinct : rs.Pairwise fun a b => a.sameAs b = false) :
    ∃ ρ : Renaming, ρ.Fixes c ∧ ρ.Numbers c (rs.map σ.resource) := by
  induction rs generalizing c σ with
  | nil => exact ⟨fun _ => Equiv.refl Nat, fun _ _ _ => rfl, trivial⟩
  | cons r rs ih =>
    obtain ⟨hr, hrs⟩ := List.forall_mem_cons.1 hnew
    obtain ⟨hfirst, hrest⟩ := List.pairwise_cons.1 hdistinct
    let x := σ.resource r
    have hx : c.count x.kind ≤ x.id := (congrArg c.count (σ.kind_resource r)).trans_le hr
    let e := exchange x.kind x.id (c.count x.kind)
    have hnext : ∀ y ∈ rs, (c.make x.kind).count y.kind ≤ ((σ.trans e).resource y).id := by
      intro y hy
      have hbeyond : c.count (σ.resource y).kind ≤ (σ.resource y).id :=
        (congrArg c.count (σ.kind_resource y)).trans_le (hrs y hy)
      have hne : x.sameAs (σ.resource y) = false := (σ.sameAs_resource r y).trans (hfirst y hy)
      have hle := count_make_le_exchange hx hbeyond hne
      rw [resource_trans, id_resource, ← σ.kind_resource y]
      exact hle
    obtain ⟨ρ, hfixes, hnumbers⟩ := ih (c.make x.kind) (σ.trans e) hnext hrest
    have hmake (kind : ResourceKind) : c.count kind ≤ (c.make x.kind).count kind := by
      rw [Contents.count_make]
      split <;> omega
    refine ⟨e.trans ρ, fun kind n hn => ?_, ?_, ?_⟩
    · have hkept : e kind n = n := exchange_of_ne fun hkind => by
        subst hkind
        omega
      exact (congrArg (ρ kind) hkept).trans (hfixes kind n (hn.trans_le (hmake kind)))
    · have hlt : c.count x.kind < (c.make x.kind).count x.kind := by
        rw [Contents.count_make, if_pos rfl]
        omega
      have hnumber : e x.kind x.id = c.count x.kind := exchange_left x.kind x.id _
      exact (congrArg (ρ x.kind) hnumber).trans (hfixes x.kind _ hlt)
    · rwa [numbers_trans, map_resource_trans]

/-- **Handles of new and distinct objects can be renamed to the next numbers** — by one `exchange`
after another. -/
theorem exists_numbers (c : Contents) {rs : List Resource}
    (hnew : ∀ r ∈ rs, c.count r.kind ≤ r.id)
    (hdistinct : rs.Pairwise fun a b => a.sameAs b = false) :
    ∃ ρ : Renaming, ρ.Fixes c ∧ ρ.Numbers c rs := by
  let same : Renaming := fun _ => Equiv.refl Nat
  have hsame (r : Resource) : same.resource r = r := by cases r <;> rfl
  have hmap : rs.map same.resource = rs := List.map_id'' hsame rs
  have hall : ∀ r ∈ rs, c.count r.kind ≤ (same.resource r).id := by
    simpa only [hsame] using hnew
  obtain ⟨ρ, hfixes, hnumbers⟩ := exists_numbers_map c same hall hdistinct
  exact ⟨ρ, hfixes, hmap ▸ hnumbers⟩

end Renaming

end BackendPlan
