import Formwork.Routing

/-!
Which page a path leads to. A router takes the first entry of its table that accepts the path, and
goes on with the target of that entry if it is a redirect. Over the table of a list of components
every path leads to exactly one component, after at most one redirect: to the first component that
accepts the path, and to the first of all where none does.
-/

namespace Formwork.Route

/-! ### Routers -/

def accepts (r : Route) (url : String) : Bool := r.path == "**" || r.path == url

/-- The path that a redirect goes on with: its target without the leading slash. -/
def landing (target : String) : String :=
  match target.toList with
  | '/' :: rest => String.ofList rest
  | _ => target

/-- A router comes from a path to the entry at a position, over a number of redirects. -/
inductive Leads (routes : List Route) :
    (url : String) → (redirects : Nat) → (position : Nat) → Prop
  | arrive {url : String} {i : Nat} {r : Route} :
      routes.findIdx? (·.accepts url) = some i → routes[i]? = some r → r.redirectTo = none →
      Leads routes url 0 i
  | redirect {url target : String} {i n j : Nat} {r : Route} :
      routes.findIdx? (·.accepts url) = some i → routes[i]? = some r →
      r.redirectTo = some target → Leads routes (landing target) n j → Leads routes url (n + 1) j

/-- A path leads to one entry only, and in one way. -/
theorem Leads.unique {routes : List Route} {url : String} {m n i j : Nat}
    (h : Leads routes url m i) (h' : Leads routes url n j) : m = n ∧ i = j := by
  induction h generalizing n j with
  | arrive hfirst hentry hpage =>
      cases h' with
      | arrive hfirst' _ _ => exact ⟨rfl, Option.some.inj (hfirst.symm.trans hfirst')⟩
      | redirect hfirst' hentry' htarget' _ =>
          obtain rfl := Option.some.inj (hfirst.symm.trans hfirst')
          obtain rfl := Option.some.inj (hentry.symm.trans hentry')
          exact absurd (hpage.symm.trans htarget') (by simp)
  | redirect hfirst hentry htarget _ ih =>
      cases h' with
      | arrive hfirst' hentry' hpage' =>
          obtain rfl := Option.some.inj (hfirst.symm.trans hfirst')
          obtain rfl := Option.some.inj (hentry.symm.trans hentry')
          exact absurd (hpage'.symm.trans htarget) (by simp)
      | redirect hfirst' hentry' htarget' hrest' =>
          obtain rfl := Option.some.inj (hfirst.symm.trans hfirst')
          obtain rfl := Option.some.inj (hentry.symm.trans hentry')
          obtain rfl := Option.some.inj (htarget.symm.trans htarget')
          obtain ⟨hcount, hposition⟩ := ih hrest'
          exact ⟨congrArg (· + 1) hcount, hposition⟩

/-! ### The table of a list of components -/

section

variable {first : Component} {rest : List Component}

theorem landing_slash (path : String) : landing ("/" ++ path) = path := by
  rw [landing, String.toList_append]
  exact String.ofList_toList

theorem accepts_ofComponent (c : Component) : (ofComponent c).accepts (Naming.pathForm c.name) := by
  simp [accepts, ofComponent]

theorem findIdx?_accepts {components : List Component}
    (h : ∀ c ∈ components, Naming.pathForm c.name ≠ "**") (url : String) :
    (components.findIdx? fun c => (ofComponent c).accepts url) =
      components.findIdx? fun c => Naming.pathForm c.name == url := by
  induction components with
  | nil => rfl
  | cons c components ih =>
      have hc : (ofComponent c).accepts url = (Naming.pathForm c.name == url) := by
        simp [accepts, ofComponent, h c List.mem_cons_self]
      rw [List.findIdx?_cons, List.findIdx?_cons, hc,
        ih fun c' hc' => h c' (List.mem_cons_of_mem c hc')]

theorem redirects_accept (first : Component) (url : String) :
    ∃ k r, (redirects first).findIdx? (·.accepts url) = some k ∧ (redirects first)[k]? = some r ∧
      r.redirectTo = some ("/" ++ Naming.pathForm first.name) := by
  by_cases hempty : "" = url
  · refine ⟨0, _, ?_, rfl, rfl⟩
    simp [redirects, List.findIdx?_cons, accepts, hempty]
  · refine ⟨1, _, ?_, rfl, rfl⟩
    simp [redirects, List.findIdx?_cons, accepts, hempty]

theorem findIdx?_table (components : List Component) (first : Component) (url : String) :
    (components.map ofComponent ++ redirects first).findIdx? (·.accepts url) =
      (components.findIdx? fun c => (ofComponent c).accepts url).or
        (((redirects first).findIdx? (·.accepts url)).map (· + components.length)) := by
  rw [List.findIdx?_append, List.findIdx?_map, List.length_map]
  rfl

theorem getElem?_table (components : List Component) (first : Component) {i : Nat}
    (h : i < components.length) :
    (components.map ofComponent ++ redirects first)[i]? = some (ofComponent components[i]) := by
  rw [List.getElem?_append_left (by rwa [List.length_map]), List.getElem?_map,
    List.getElem?_eq_getElem h]
  rfl

theorem leads_accepted {components : List Component} (first : Component) {url : String} {i : Nat}
    (h : components.findIdx? (fun c => (ofComponent c).accepts url) = some i) :
    i < components.length ∧ Leads (components.map ofComponent ++ redirects first) url 0 i := by
  have hi : i < components.length := (List.findIdx?_eq_some_iff_getElem.mp h).1
  refine ⟨hi, .arrive ?_ (getElem?_table components first hi) rfl⟩
  rw [findIdx?_table, h]
  rfl

theorem leads_redirected {url : String}
    (h : (first :: rest).findIdx? (fun c => (ofComponent c).accepts url) = none) :
    Leads ((first :: rest).map ofComponent ++ redirects first) url 1 0 := by
  obtain ⟨k, r, hfirst, hentry, htarget⟩ := redirects_accept first url
  have hstart : (first :: rest).findIdx?
      (fun c => (ofComponent c).accepts (Naming.pathForm first.name)) = some 0 := by
    rw [List.findIdx?_cons, if_pos (accepts_ofComponent first)]
  refine .redirect (i := k + (first :: rest).length) (r := r) ?_ ?_ htarget ?_
  · rw [findIdx?_table, h, hfirst]
    rfl
  · rw [List.getElem?_append_right (by rw [List.length_map]; omega), List.length_map,
      Nat.add_sub_cancel, hentry]
  · rw [landing_slash]
    exact (leads_accepted first hstart).2

end

/-- Over the table of a list of components, whose first entries are those of the components in their
order, every path leads to exactly one of them, after at most one redirect. Unless a component has
the path of the wildcard, it is the first one that has the path, or the first of all if none has. -/
theorem table_leads (components : List Component) (hne : components ≠ []) :
    ∃ routes, table components = .ok routes ∧
      (∀ i (h : i < components.length), routes[i]? = some (ofComponent components[i])) ∧
      ∀ url, ∃ redirects i, redirects ≤ 1 ∧ i < components.length ∧ Leads routes url redirects i ∧
        (∀ n j, Leads routes url n j → n = redirects ∧ j = i) ∧
        ((∀ c ∈ components, Naming.pathForm c.name ≠ "**") →
          i = (components.findIdx? fun c => Naming.pathForm c.name == url).getD 0) := by
  obtain ⟨first, rest, rfl⟩ := List.exists_cons_of_ne_nil hne
  refine ⟨_, rfl, fun i h => getElem?_table _ first h, fun url => ?_⟩
  cases haccepted : (first :: rest).findIdx? fun c => (ofComponent c).accepts url with
  | some i =>
      obtain ⟨hi, hleads⟩ := leads_accepted first haccepted
      refine ⟨0, i, Nat.zero_le 1, hi, hleads, fun n j h => h.unique hleads, fun hall => ?_⟩
      rw [← findIdx?_accepts hall, haccepted]
      rfl
  | none =>
      have hleads := leads_redirected haccepted
      refine ⟨1, 0, Nat.le_refl 1, Nat.zero_lt_succ _, hleads, fun n j h => h.unique hleads,
        fun hall => ?_⟩
      rw [← findIdx?_accepts hall, haccepted]
      rfl

/-- Pages of which two have the same path, and one has the empty path. -/
def wiki : List Component := [{ name := "Home" }, { name := "" }, { name := "HOME" }]

theorem table_leads_wiki :
    wiki ≠ [] ∧ (∀ c ∈ wiki, Naming.pathForm c.name ≠ "**") ∧
    ∃ routes, table wiki = .ok routes ∧
      (∃ n, Leads routes "" n 1) ∧ (∃ n, Leads routes "home" n 0) ∧
      ∃ n, n ≤ 1 ∧ Leads routes "news/today" n 0 := by
  have hplain : ∀ c ∈ wiki, Naming.pathForm c.name ≠ "**" := by decide
  obtain ⟨routes, htable, -, hall⟩ := table_leads wiki (by decide)
  refine ⟨by decide, hplain, routes, htable, ?_, ?_, ?_⟩
  · obtain ⟨n, i, -, -, hleads, -, hposition⟩ := hall ""
    obtain rfl : i = 1 := hposition hplain
    exact ⟨n, hleads⟩
  · obtain ⟨n, i, -, -, hleads, -, hposition⟩ := hall "home"
    obtain rfl : i = 0 := hposition hplain
    exact ⟨n, hleads⟩
  · obtain ⟨n, i, hn, -, hleads, -, hposition⟩ := hall "news/today"
    obtain rfl : i = 0 := hposition hplain
    exact ⟨n, hn, hleads⟩

end Formwork.Route
