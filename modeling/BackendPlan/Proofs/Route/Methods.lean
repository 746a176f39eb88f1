import BackendPlan.Proofs.Decoration.Attributes
import BackendPlan.Proofs.Text.Case

/-!
# Proofs/Route/Methods — the methods a route is kept with, and those it answers to

The steps of a declaration may name methods many times over; one list or one method counts in the
end, and it is kept in **normal form**, which is the same for every spelling of the same methods:

    steps  —`named`→  methods as given  —`normalized`→  methods as kept

* `rawMethods_build` — which methods count.
* `resolvedMethods_eq` — what is kept of them.
* `IsNormal.normalized_eq` — a normal form is kept as it is.
* `methods_normalized` — **every route is kept with the normal form of what its last steps named.**

What a route answers to is another matter, since a method asked for is compared by ASCII case.

* `Route.allows_iff_toUpper` — what a record with methods in upper case answers to.
* `answers_iff` — **a route answers to a method exactly if its upper case is kept and only its ASCII
  letters change.**
* `refuses_own_method` — a route that does not answer to the method it was declared with.
-/

namespace BackendPlan

namespace RouteSpec

/-! ## Which methods count -/

/-- The list that a step names. -/
def Setting.list? : Setting → Option (List String)
  | methods names => some names
  | _ => none

/-- The single method that a step names. -/
def Setting.single? : Setting → Option String
  | method name => some name
  | _ => none

/-- **The methods that the steps name in the end**: those of the last `methods`, or without one the
last `method`. -/
def named (settings : List Setting) : List String :=
  (settings.filterMap Setting.list?).getLast?.getD
    (settings.filterMap Setting.single?).getLast?.toList

theorem rawMethods_build (path : String) (settings : List Setting) :
    (build path settings).rawMethods = named settings := by
  have hlist := List.get_foldl methods Setting.list? apply (fun _ s => by cases s <;> rfl)
    settings { path := path }
  have hsingle := List.get_foldl method Setting.single? apply (fun _ s => by cases s <;> rfl)
    settings { path := path }
  rw [rawMethods, build, hlist, hsingle, named]
  cases (settings.filterMap Setting.list?).getLast? with
  | some list => rfl
  | none => cases (settings.filterMap Setting.single?).getLast? <;> rfl

/-! ## Normal form -/

/-- **Methods in normal form**: trimmed, in upper case, not blank, none twice, and at least one. -/
structure IsNormal (methods : List String) : Prop where
  ne_nil : methods ≠ []
  nodup : methods.Nodup
  not_blank : ∀ m ∈ methods, Text.isBlankText m = false
  trim_eq : ∀ m ∈ methods, Text.trim m = m
  upper_eq : ∀ m ∈ methods, Text.upper m = m

/-- The methods that are not blank, trimmed and in upper case, each where it comes first. -/
def spelled (methods : List String) : List String :=
  ((methods.filter fun m => !Text.isBlankText m).map fun m => Text.upper (Text.trim m)).eraseDups

/-- **The normal form of methods as given** — `GET` stands for none. -/
def normalized (methods : List String) : List String :=
  if methods.all Text.isBlankText then ["GET"] else spelled methods

/-- A method is dropped exactly if it is blank — `Text.upper` makes no white space and loses no
character. -/
theorem normalMethod_eq_empty_iff {m : String} :
    normalMethod m = "" ↔ Text.isBlankText m = true := by
  rw [normalMethod, Text.upper_eq_empty_iff, Text.trim_eq_empty_iff]

theorem mem_spelled {methods : List String} {m : String} : m ∈ spelled methods ↔
    ∃ given ∈ methods, Text.isBlankText given = false ∧ Text.upper (Text.trim given) = m := by
  simp [spelled, List.mem_eraseDups, and_assoc]

/-- **One more method is added as the steps of the resolution add it** — so `foldl_addMethod` goes
by the end of the list. -/
theorem spelled_concat (methods : List String) (m : String) :
    spelled (methods ++ [m]) = addMethod (spelled methods) m := by
  rw [spelled, List.filter_append, List.map_append, addMethod]
  cases h : Text.isBlankText m with
  | true =>
    have hdrop : ¬ (normalMethod m ≠ "" ∧ normalMethod m ∉ spelled methods) := fun hm =>
      hm.1 (normalMethod_eq_empty_iff.2 h)
    rw [if_neg hdrop, List.filter_cons_of_neg (by simp [h]), List.filter_nil, List.map_nil,
      List.append_nil, spelled]
  | false =>
    have hne : normalMethod m ≠ "" := fun hm => by simp [normalMethod_eq_empty_iff, h] at hm
    rw [List.filter_cons_of_pos (by simp [h]), List.filter_nil, List.map_singleton,
      List.eraseDups_concat, ← spelled, ← normalMethod]
    by_cases hmem : normalMethod m ∈ spelled methods
    · rw [if_pos hmem, if_neg fun hm => hm.2 hmem]
    · rw [if_neg hmem, if_pos ⟨hne, hmem⟩]

theorem foldl_addMethod (methods : List String) : methods.foldl addMethod [] = spelled methods := by
  induction methods using List.reverseRecOn with
  | nil => rfl
  | append_singleton methods m ih =>
    rw [List.foldl_append, ih, List.foldl_cons, List.foldl_nil, spelled_concat]

theorem spelled_eq_nil_iff {methods : List String} :
    spelled methods = [] ↔ methods.all Text.isBlankText = true := by
  rw [List.eq_nil_iff_forall_not_mem, List.all_eq_true]
  simp only [mem_spelled]
  constructor
  · intro h m hm
    exact by_contra fun hblank => h _ ⟨m, hm, Bool.eq_false_iff.2 hblank, rfl⟩
  · rintro h _ ⟨m, hm, hblank, -⟩
    exact Bool.false_ne_true (hblank.symm.trans (h m hm))

/-- **What is kept is the normal form of what was given** — the loop with its test for repetitions
is `spelled`. -/
theorem resolvedMethods_eq (spec : RouteSpec) :
    spec.resolvedMethods = normalized spec.rawMethods := by
  rw [resolvedMethods, foldl_addMethod, normalized]
  by_cases h : spec.rawMethods.all Text.isBlankText = true
  · rw [if_pos h, spelled_eq_nil_iff.2 h]
    rfl
  · have hne : ¬ (spelled spec.rawMethods).isEmpty = true := by
      rw [List.isEmpty_iff, spelled_eq_nil_iff]
      exact h
    rw [if_neg h]
    exact if_neg hne

/-- **The normal form is in normal form** — `upper_upper` and `trim_upper`, method by method. -/
theorem isNormal_normalized (methods : List String) : IsNormal (normalized methods) := by
  unfold normalized
  split
  · exact ⟨by decide, by decide, by decide, by decide, by decide⟩
  · next h =>
    have hspelled : ∀ m ∈ spelled methods,
        Text.isBlankText m = false ∧ Text.trim m = m ∧ Text.upper m = m := by
      intro m hm
      obtain ⟨given, -, hblank, rfl⟩ := mem_spelled.1 hm
      refine ⟨?_, ?_, Text.upper_upper _⟩
      · rw [Text.isBlankText_upper, Text.isBlankText_trim, hblank]
      · rw [Text.trim_upper, Text.trim_trim]
    exact ⟨mt spelled_eq_nil_iff.1 h, List.nodup_eraseDups _, fun m hm => (hspelled m hm).1,
      fun m hm => (hspelled m hm).2.1, fun m hm => (hspelled m hm).2.2⟩

/-- Nothing is left to do to a list that is `IsNormal`. -/
theorem IsNormal.normalized_eq {methods : List String} (h : IsNormal methods) :
    normalized methods = methods := by
  have hall : ¬ methods.all Text.isBlankText = true := by
    intro hall
    obtain ⟨m, hm⟩ := List.exists_mem_of_ne_nil methods h.ne_nil
    exact Bool.false_ne_true ((h.not_blank m hm).symm.trans (List.all_eq_true.1 hall m hm))
  have hfilter : methods.filter (fun m => !Text.isBlankText m) = methods :=
    List.filter_eq_self.2 fun m hm => by simp [h.not_blank m hm]
  have hmap : methods.map (fun m => Text.upper (Text.trim m)) = methods := by
    conv_rhs => rw [← List.map_id methods]
    exact List.map_congr_left fun m hm => by rw [h.trim_eq m hm, h.upper_eq m hm, id]
  rw [normalized, if_neg hall, spelled, hfilter, hmap, List.eraseDups_of_nodup h.nodup]

end RouteSpec

/-! ## Records -/

namespace Route

theorem attributes_absorb (r : Route) {p : Pending} {attrs : RouteAttributes}
    (h : p.route = some attrs) : (r.absorb p).attributes = attrs := by
  simp only [absorb, h]
  split <;> rfl

/-- **A pending route is shown by the first record of its handler**, and no other record is new. -/
theorem settle_of_route (h : Handler) {p : Pending} {attrs : RouteAttributes}
    (hp : p.route = some attrs) (routes : List Route) :
    (∃ r, findFirst? h.id (settle h p routes) = some r ∧ r.attributes = attrs) ∧
      ∀ r ∈ settle h p routes, r ∈ routes ∨ r.attributes = attrs := by
  induction routes with
  | nil =>
    rw [settle_of_none rfl, Pending.record, hp]
    exact ⟨⟨_, findFirst?_cons_self [] rfl, rfl⟩,
      fun r hr => .inr (by rw [List.mem_singleton.1 hr]; rfl)⟩
  | cons first rest ih =>
    by_cases hfirst : first.handler = h.id
    · have hattrs := first.attributes_absorb hp
      rw [settle_cons_self p rest hfirst]
      refine ⟨⟨_, findFirst?_cons_self rest ((handler_absorb first p).trans hfirst), hattrs⟩, ?_⟩
      intro r hr
      rcases List.mem_cons.1 hr with rfl | hr
      · exact .inr hattrs
      · exact .inl (List.mem_cons_of_mem _ hr)
    · rw [settle_cons_of_ne p rest hfirst, findFirst?_cons_of_ne _ hfirst]
      refine ⟨ih.1, fun r hr => ?_⟩
      rcases List.mem_cons.1 hr with rfl | hr
      · exact .inl List.mem_cons_self
      · exact (ih.2 r hr).imp_left (List.mem_cons_of_mem _)

end Route

/-- **A declared route is shown by the record of its handler**, and no other record is new — `route`
stashes its attributes and settles. -/
theorem Workbench.routes_route (b : Workbench) (h : Handler) (spec : RouteSpec) :
    (∃ r, (b.route h spec).2.registry.findRoute? h.id = some r ∧ r.attributes = spec.attributes) ∧
      ∀ r ∈ (b.route h spec).2.registry.routes,
        r ∈ b.registry.routes ∨ r.attributes = spec.attributes := by
  rw [registry_route]
  exact Route.settle_of_route h rfl b.registry.routes

namespace RouteSpec

/-- **Every route is kept with the normal form of what its last steps named.**  The list named last
counts, or else the method named last; what is kept of it is in normal form, is kept again as it is
whatever was named before, and is what the record of the handler shows once the route is
declared. -/
theorem methods_normalized (path : String) (settings : List Setting) :
    let spec := build path settings
    spec.resolvedMethods = normalized (named settings) ∧
      IsNormal spec.resolvedMethods ∧
      (∀ other : RouteSpec, (other.apply (.methods spec.resolvedMethods)).resolvedMethods =
        spec.resolvedMethods) ∧
      ∀ (b : Workbench) (h : Handler),
        (∃ r, (b.route h spec).2.registry.findRoute? h.id = some r ∧
          r.methods = spec.resolvedMethods) ∧
        ∀ r ∈ (b.route h spec).2.registry.routes,
          r ∈ b.registry.routes ∨ r.methods = spec.resolvedMethods := by
  intro spec
  have hspec : spec.resolvedMethods = normalized (named settings) := by
    rw [resolvedMethods_eq, rawMethods_build]
  have hnormal : IsNormal spec.resolvedMethods := hspec ▸ isNormal_normalized _
  refine ⟨hspec, hnormal, fun other => ?_, fun b h => ?_⟩
  · rw [resolvedMethods_eq]
    exact hnormal.normalized_eq
  · obtain ⟨⟨r, hfound, hattrs⟩, hroutes⟩ := b.routes_route h spec
    exact ⟨⟨r, hfound, congrArg RouteAttributes.methods hattrs⟩,
      fun r hr => (hroutes r hr).imp_right (congrArg RouteAttributes.methods)⟩

end RouteSpec

/-! ## Which methods a route answers to

A method is compared with those kept by ASCII case alone, while the methods are kept in upper case
by the full mapping:

    kept:  `Text.upper`  (full)        asked:  `String.toUpper`  (ASCII)

The two rules meet on a method of which only ASCII letters have a case. -/

/-- **A record answers to a method exactly if it has the ASCII upper case of it** — its methods
being in full upper case, ASCII leaves them alone. -/
theorem Route.allows_iff_toUpper {r : Route} (h : ∀ m ∈ r.methods, Text.upper m = m)
    (method : String) :
    r.allows method = true ↔ method.toUpper ∈ r.methods := by
  rw [allows, List.any_eq_true]
  constructor
  · rintro ⟨m, hm, heq⟩
    rwa [(Text.equalsIgnoringAsciiCase_iff_toUpper (h m hm)).1 heq]
  · intro hmem
    exact ⟨_, hmem, (Text.equalsIgnoringAsciiCase_iff_toUpper (h _ hmem)).2 rfl⟩

/-- Where the ASCII upper case is kept, `Text.upper` has nothing more to map. -/
theorem Route.allows_iff_upper {r : Route} (h : ∀ m ∈ r.methods, Text.upper m = m)
    (method : String) :
    r.allows method = true ↔
      Text.upper method ∈ r.methods ∧ Text.upper method = method.toUpper := by
  rw [allows_iff_toUpper h]
  constructor
  · intro hmem
    have heq : Text.upper method = method.toUpper := by
      rw [← Text.upper_toUpper, h _ hmem]
    exact ⟨heq ▸ hmem, heq⟩
  · rintro ⟨hmem, heq⟩
    exact heq ▸ hmem

namespace RouteSpec

/-- The methods a route was declared with are kept, trimmed and in upper case. -/
theorem upper_trim_mem_resolvedMethods {spec : RouteSpec} {m : String} (hm : m ∈ spec.rawMethods)
    (hblank : Text.isBlankText m = false) : Text.upper (Text.trim m) ∈ spec.resolvedMethods := by
  have hall : ¬ spec.rawMethods.all Text.isBlankText = true := fun hall =>
    Bool.false_ne_true (hblank.symm.trans (List.all_eq_true.1 hall m hm))
  rw [resolvedMethods_eq, normalized, if_neg hall]
  exact mem_spelled.2 ⟨m, hm, hblank, rfl⟩

/-- **Which methods a declared route answers to.**  The record of its handler answers to a method
exactly if the upper case of the method is one of those kept, and no character of the method but an
ASCII letter changes.  So it answers to a method that it was declared with, as spelled but for white
space around it, exactly if only ASCII letters of it change. -/
theorem answers_iff (b : Workbench) (h : Handler) (spec : RouteSpec) :
    ∃ r, (b.route h spec).2.registry.findRoute? h.id = some r ∧
      r.methods = spec.resolvedMethods ∧
      (∀ method, r.allows method = true ↔ Text.upper method ∈ r.methods ∧
        ∀ c ∈ method.toList, c.toNat < 0x80 ∨ Text.upperChar c = [c]) ∧
      ∀ m ∈ spec.rawMethods, Text.isBlankText m = false →
        (r.allows (Text.trim m) = true ↔
          ∀ c ∈ (Text.trim m).toList, c.toNat < 0x80 ∨ Text.upperChar c = [c]) := by
  obtain ⟨⟨r, hfound, hattrs⟩, -⟩ := b.routes_route h spec
  have hmethods : r.methods = spec.resolvedMethods := congrArg RouteAttributes.methods hattrs
  have hupper : ∀ m ∈ r.methods, Text.upper m = m := by
    rw [hmethods, resolvedMethods_eq]
    exact (isNormal_normalized _).upper_eq
  have hallows : ∀ method, r.allows method = true ↔ Text.upper method ∈ r.methods ∧
      ∀ c ∈ method.toList, c.toNat < 0x80 ∨ Text.upperChar c = [c] := fun method => by
    rw [Route.allows_iff_upper hupper, Text.upper_eq_toUpper_iff]
  refine ⟨r, hfound, hmethods, hallows, fun m hm hblank => ?_⟩
  rw [hallows, hmethods]
  exact and_iff_right (upper_trim_mem_resolvedMethods hm hblank)

/-- A route for `" get "` answers to `"get"` and to `"Get"`. -/
theorem answers_iff_of_padded_get :
    let spec := build "/menu" [.method " get "]
    " get " ∈ spec.rawMethods ∧ Text.isBlankText " get " = false ∧
      ∃ r, ((Workbench.new {} {}).route (.echo 1 "menu") spec).2.registry.findRoute?
          (Handler.echo 1 "menu").id = some r ∧
        r.allows (Text.trim " get ") = true ∧ r.allows "Get" = true := by
  intro spec
  have hraw : " get " ∈ spec.rawMethods := by decide
  have hblank : Text.isBlankText " get " = false := by decide
  obtain ⟨r, hfound, hmethods, hallows, hdeclared⟩ :=
    answers_iff (Workbench.new {} {}) (.echo 1 "menu") spec
  have htrim : Text.trim " get " = "get" := by decide
  have htrimmed : ∀ c ∈ (Text.trim " get ").toList, c.toNat < 0x80 := by simp [htrim]
  have hasked : ∀ c ∈ "Get".toList, c.toNat < 0x80 := by simp
  refine ⟨hraw, hblank, r, hfound,
    (hdeclared _ hraw hblank).2 fun c hc => .inl (htrimmed c hc), (hallows _).2 ⟨?_, ?_⟩⟩
  · rw [hmethods]
    decide
  · exact fun c hc => .inl (hasked c hc)

/-- **A route for `"é"` does not answer to `"é"`** — though `"É"`, its upper case, is the method
that it keeps. -/
theorem refuses_own_method :
    let spec := build "/menu" [.method "é"]
    ∃ r, ((Workbench.new {} {}).route (.echo 1 "menu") spec).2.registry.findRoute?
        (Handler.echo 1 "menu").id = some r ∧
      r.methods = spec.resolvedMethods ∧ Text.upper "é" ∈ r.methods ∧ r.allows "é" = false := by
  intro spec
  exact ⟨_, rfl, rfl, by decide +kernel, by decide +kernel⟩

end RouteSpec

end BackendPlan
