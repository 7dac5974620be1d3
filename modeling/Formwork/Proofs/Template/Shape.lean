import Formwork.Proofs.Template.Rendering

/-!
Templates that never fail. A signature says what kind of datum each name of a scope stands for,
and a template is closed under a signature when every name and every member that it looks at is
there with a kind that its use allows. A closed template is rendered in every scope that fits the
signature: a missing name, a missing member, a loop over no list, a filter on the wrong kind of
value and a number that is too long to be written cannot come up.
-/

namespace Formwork.Template

inductive Shape
  | value
  | text
  | list (item : Shape)
  | record (members : List (String × Shape))
  | entry
  | entries

/-- The kind of datum that each name stands for. -/
abbrev Signature := List (String × Shape)

mutual

def Shape.Admits : Shape → Datum → Prop
  | .value, .value v => v.isWritable = true
  | .text, .value (.str _) => True
  | .list item, .value (.list items) => ∀ v ∈ items, item.Admits (.value v)
  | .record shapes, .value (.object members) => Shape.AdmitsMembers shapes members
  | .entry, .entry _ => True
  | .entries, .entries _ => True
  | _, _ => False

def Shape.AdmitsMembers : List (String × Shape) → List (String × Value) → Prop
  | [], _ => True
  | (name, shape) :: rest, members =>
    (∃ v, Value.member? members name = some v ∧ shape.Admits (.value v)) ∧
      Shape.AdmitsMembers rest members

end

namespace Shape.Admits

variable {d : Datum}

theorem exists_value (h : Shape.value.Admits d) : ∃ v, d = .value v ∧ v.isWritable = true :=
  match d, h with
  | .value v, h => ⟨v, rfl, h⟩

theorem exists_text (h : Shape.text.Admits d) : ∃ s, d = .value (.str s) :=
  match d, h with
  | .value (.str s), _ => ⟨s, rfl⟩

theorem exists_list {item : Shape} (h : (Shape.list item).Admits d) :
    ∃ items, d = .value (.list items) ∧ ∀ v ∈ items, item.Admits (.value v) :=
  match d, h with
  | .value (.list items), h => ⟨items, rfl, h⟩

theorem exists_record {shapes : List (String × Shape)} (h : (Shape.record shapes).Admits d) :
    ∃ members, d = .value (.object members) ∧ Shape.AdmitsMembers shapes members :=
  match d, h with
  | .value (.object members), h => ⟨members, rfl, h⟩

theorem exists_entry (h : Shape.entry.Admits d) : ∃ written, d = .entry written :=
  match d, h with
  | .entry written, _ => ⟨written, rfl⟩

theorem exists_entries (h : Shape.entries.Admits d) : ∃ written, d = .entries written :=
  match d, h with
  | .entries written, _ => ⟨written, rfl⟩

end Shape.Admits

def Shape.isPrinted : Shape → Bool
  | .value | .text | .entry => true
  | _ => false

def Filter.shape? : Filter → Shape → Option Shape
  | .literal, .value | .literal, .text => some .text
  | .join _, .list .text => some .text
  | .classForm, .text | .pathForm, .text | .labelForm, .text | .indent _, .text => some .text
  | _, _ => none

/-- The kind of an expression, if everything that it looks at is there. -/
def Expr.shape? (sig : Signature) : Expr → Option Shape
  | .named name => sig.lookup name
  | .member of name =>
    match of.shape? sig with
    | some (.record members) => members.lookup name
    | _ => none
  | .written of =>
    match of.shape? sig with
    | some .entry => some .text
    | _ => none
  | .filtered e filter => (e.shape? sig).bind filter.shape?
  | .whenWord e .. => (e.shape? sig).map fun _ => .text
  | .unlessLast _ => some .text

mutual

/-- Whether a piece looks only at what the signature promises. -/
def Piece.closed (sig : Signature) : Piece → Bool
  | .text _ => true
  | .value e =>
    match e.shape? sig with
    | some shape => shape.isPrinted
    | none => false
  | .each binder items body =>
    match items.shape? sig with
    | some (.list item) => closedAll ((binder, item) :: sig) body
    | some .entries => closedAll ((binder, .entry) :: sig) body
    | _ => false
  | .whenTrue condition body => (condition.shape? sig).isSome && closedAll sig body
  | .whenFalse condition body => (condition.shape? sig).isSome && closedAll sig body

/-- Whether pieces look only at what the signature promises. -/
def closedAll (sig : Signature) : List Piece → Bool
  | [] => true
  | p :: rest => p.closed sig && closedAll sig rest

end

/-- A scope in which every name of a signature stands for a datum of its kind. -/
def Scope.Fits (s : Scope) (sig : Signature) : Prop :=
  ∀ name shape, sig.lookup name = some shape →
    ∃ d, s.names.lookup name = some d ∧ shape.Admits d

theorem Scope.fits_of_forall_mem {s : Scope} {sig : Signature}
    (h : ∀ m ∈ sig, ∃ d, s.names.lookup m.1 = some d ∧ m.2.Admits d) : s.Fits sig := by
  induction sig with
  | nil =>
      intro name shape hname
      cases hname
  | cons first rest ih =>
      intro name shape hname
      rw [List.lookup_cons] at hname
      cases hn : name == first.1 with
      | true =>
          rw [hn] at hname
          cases hname
          rw [eq_of_beq hn]
          exact h first List.mem_cons_self
      | false =>
          rw [hn] at hname
          exact ih (fun m hm => h m (List.mem_cons_of_mem first hm)) name shape hname

theorem Scope.Fits.round {s : Scope} {sig : Signature} (h : s.Fits sig) {binder : String}
    {item : Datum} {shape : Shape} (hitem : shape.Admits item) (isLast : Bool) :
    (s.round binder item isLast).Fits ((binder, shape) :: sig) := by
  intro name sh hname
  simp only [Scope.round, List.lookup_cons] at hname ⊢
  cases hb : name == binder with
  | true =>
      rw [hb] at hname
      cases hname
      exact ⟨item, rfl, hitem⟩
  | false =>
      rw [hb] at hname
      exact h name sh hname

theorem Shape.AdmitsMembers.lookup {shapes : List (String × Shape)}
    {members : List (String × Value)} (h : Shape.AdmitsMembers shapes members) {name : String}
    {shape : Shape} (hname : shapes.lookup name = some shape) :
    ∃ v, Value.member? members name = some v ∧ shape.Admits (.value v) := by
  induction shapes with
  | nil => cases hname
  | cons first rest ih =>
      obtain ⟨n, sh⟩ := first
      obtain ⟨hfirst, hrest⟩ := h
      rw [List.lookup_cons] at hname
      cases hn : name == n with
      | true =>
          rw [hn] at hname
          cases hname
          rw [eq_of_beq hn]
          exact hfirst
      | false =>
          rw [hn] at hname
          exact ih hrest hname

theorem Shape.Admits.isWritable {shape : Shape} {d : Datum} (hd : shape.Admits d)
    (hprinted : shape.isPrinted = true) : d.toValue.isWritable = true := by
  cases shape <;> cases hprinted
  case value =>
    obtain ⟨v, rfl, hv⟩ := hd.exists_value
    exact hv
  case text =>
    obtain ⟨s, rfl⟩ := hd.exists_text
    simp [Datum.toValue, Value.isWritable]
  case entry =>
    obtain ⟨written, rfl⟩ := hd.exists_entry
    simp [Datum.toValue, Value.isWritable]

theorem exists_texts {items : List Value} (h : ∀ v ∈ items, Shape.text.Admits (.value v)) :
    ∃ texts : List String, items = texts.map .str := by
  induction items with
  | nil => exact ⟨[], rfl⟩
  | cons v items ih =>
      obtain ⟨texts, rfl⟩ := ih fun w hw => h w (List.mem_cons_of_mem v hw)
      obtain ⟨s, hv⟩ := (h v List.mem_cons_self).exists_text
      exact ⟨s :: texts, by rw [Datum.value.inj hv]; rfl⟩

theorem Filter.apply_of_shape {filter : Filter} {shape result : Shape} {d : Datum}
    (hshape : filter.shape? shape = some result) (hd : shape.Admits d) :
    result = .text ∧ ∃ s, filter.apply d.toValue = .ok (.str s) := by
  cases filter with
  | literal =>
      have hliteral : d.toValue.isWritable = true → Filter.literal.apply d.toValue =
          .ok (.str (TypeScript.literalText d.toValue)) := fun hw => by
        rw [Filter.apply, TypeScript.literal, if_pos hw]
        rfl
      cases shape <;> cases hshape <;>
        exact ⟨rfl, _, hliteral (Shape.Admits.isWritable hd rfl)⟩
  | join separator =>
      cases shape with
      | list item =>
          cases item <;> cases hshape
          obtain ⟨items, rfl, hitems⟩ := hd.exists_list
          obtain ⟨texts, rfl⟩ := exists_texts hitems
          exact ⟨rfl, _, apply_join separator texts⟩
      | _ => cases hshape
  | classForm | pathForm | labelForm | indent =>
      cases shape <;> cases hshape
      obtain ⟨s, rfl⟩ := hd.exists_text
      exact ⟨rfl, _, rfl⟩

/-- An expression with a kind stands for a datum of that kind. -/
theorem Expr.eval_of_shape {s : Scope} {sig : Signature} (h : s.Fits sig) (e : Expr)
    {shape : Shape} (hshape : e.shape? sig = some shape) :
    ∃ d, e.eval s = .ok d ∧ shape.Admits d := by
  induction e generalizing shape with
  | named name =>
      obtain ⟨d, hd, hadmits⟩ := h name shape hshape
      exact ⟨d, by rw [Expr.eval, hd], hadmits⟩
  | member e name ih =>
      rw [Expr.shape?] at hshape
      split at hshape
      · rename_i members hof
        obtain ⟨d, hd, hadmits⟩ := ih hof
        obtain ⟨present, rfl, hpresent⟩ := hadmits.exists_record
        obtain ⟨v, hv, hadmits⟩ := Shape.AdmitsMembers.lookup hpresent hshape
        refine ⟨.value v, ?_, hadmits⟩
        rw [Expr.eval, hd]
        simp only [bind, Except.bind, hv]
      · cases hshape
  | written e ih =>
      rw [Expr.shape?] at hshape
      split at hshape
      · rename_i hof
        cases hshape
        obtain ⟨d, hd, hadmits⟩ := ih hof
        obtain ⟨text, rfl⟩ := hadmits.exists_entry
        refine ⟨.value (.str text), ?_, trivial⟩
        rw [Expr.eval, hd]
        rfl
      · cases hshape
  | filtered e filter ih =>
      obtain ⟨inner, hinner, hfilter⟩ := Option.bind_eq_some_iff.mp hshape
      obtain ⟨d, hd, hadmits⟩ := ih hinner
      obtain ⟨rfl, text, happly⟩ := Filter.apply_of_shape hfilter hadmits
      refine ⟨.value (.str text), ?_, trivial⟩
      rw [Expr.eval, hd]
      simp only [bind, Except.bind, happly]
      rfl
  | whenWord e word yes no ih =>
      obtain ⟨inner, hinner, rfl⟩ := Option.map_eq_some_iff.mp hshape
      obtain ⟨d, hd, -⟩ := ih hinner
      rw [Expr.eval, hd]
      simp only [bind, Except.bind]
      split
      · exact ⟨_, rfl, trivial⟩
      · exact ⟨_, rfl, trivial⟩
  | unlessLast text =>
      cases hshape
      exact ⟨_, rfl, trivial⟩

theorem items_of_shape {d : Datum} {shape item : Shape} (hd : shape.Admits d)
    (hitem : shape = .list item ∨ shape = .entries ∧ item = .entry) :
    ∃ ds, d.items = .ok ds ∧ ∀ a ∈ ds, item.Admits a := by
  rcases hitem with rfl | ⟨rfl, rfl⟩
  · obtain ⟨items, rfl, hall⟩ := hd.exists_list
    refine ⟨_, rfl, ?_⟩
    intro a ha
    obtain ⟨v, hv, rfl⟩ := List.mem_map.mp ha
    exact hall v hv
  · obtain ⟨written, rfl⟩ := hd.exists_entries
    refine ⟨_, rfl, ?_⟩
    intro a ha
    obtain ⟨w, -, rfl⟩ := List.mem_map.mp ha
    trivial

theorem mem_rounds {s : Scope} {binder : String} {ds : List Datum} {round : Scope}
    (h : round ∈ rounds s binder ds) :
    ∃ d ∈ ds, ∃ isLast, round = s.round binder d isLast := by
  induction ds with
  | nil => cases h
  | cons d rest ih =>
      cases rest with
      | nil =>
          rw [rounds, List.mem_singleton] at h
          exact ⟨d, List.mem_cons_self, true, h⟩
      | cons e rest =>
          rw [rounds, List.mem_cons] at h
          · rcases h with rfl | h
            · exact ⟨d, List.mem_cons_self, false, rfl⟩
            · obtain ⟨a, ha, isLast, rfl⟩ := ih h
              exact ⟨a, List.mem_cons_of_mem d ha, isLast, rfl⟩
          · simp

theorem mapM_total {α β ε : Type} {f : α → Except ε β} {as : List α}
    (h : ∀ a ∈ as, ∃ b, f a = .ok b) : ∃ bs, as.mapM f = .ok bs := by
  induction as with
  | nil => exact ⟨[], rfl⟩
  | cons a as ih =>
      obtain ⟨b, hb⟩ := h a List.mem_cons_self
      obtain ⟨bs, hbs⟩ := ih fun a' ha' => h a' (List.mem_cons_of_mem a ha')
      refine ⟨b :: bs, ?_⟩
      rw [List.mapM_cons, hb, hbs]
      rfl

/-- The rounds of a loop over items of one kind are rendered if the body is, in every scope that
fits. -/
theorem rounds_total {s : Scope} {sig : Signature} (h : s.Fits sig) {binder : String}
    {body : List Piece} {item : Shape} {ds : List Datum} (hds : ∀ d ∈ ds, item.Admits d)
    (hbody : ∀ {round : Scope}, round.Fits ((binder, item) :: sig) →
      ∃ text, renderAll round body = .ok text) :
    ∃ texts, (rounds s binder ds).mapM (fun round => renderAll round body) = .ok texts := by
  refine mapM_total fun round hround => ?_
  obtain ⟨d, hd, isLast, rfl⟩ := mem_rounds hround
  exact hbody (h.round (hds d hd) isLast)

mutual

theorem Piece.render_of_closed {s : Scope} {sig : Signature} (h : s.Fits sig) (p : Piece)
    (hp : p.closed sig = true) : ∃ text, p.render s = .ok text := by
  cases p with
  | text t => exact ⟨t, by rw [Piece.render]⟩
  | value e =>
      rw [Piece.closed] at hp
      split at hp
      · rename_i shape hshape
        obtain ⟨d, hd, hadmits⟩ := e.eval_of_shape h hshape
        refine ⟨d.toValue.display, ?_⟩
        rw [Piece.render, hd]
        show textOf d.toValue = _
        rw [textOf_eq, hadmits.isWritable hp, Number.limited_true]
      · cases hp
  | each binder items body =>
      have hitems : ∃ shape item, items.shape? sig = some shape ∧
          (shape = .list item ∨ shape = .entries ∧ item = .entry) ∧
          closedAll ((binder, item) :: sig) body = true := by
        rw [Piece.closed] at hp
        split at hp
        · exact ⟨_, _, ‹_›, .inl rfl, hp⟩
        · exact ⟨_, _, ‹_›, .inr ⟨rfl, rfl⟩, hp⟩
        · cases hp
      obtain ⟨shape, item, hshape, hitem, hbody⟩ := hitems
      -- the body is closed under the signature with the binder, and each round has a scope for it
      obtain ⟨d, hd, hadmits⟩ := items.eval_of_shape h hshape
      obtain ⟨ds, hds, hall⟩ := items_of_shape hadmits hitem
      obtain ⟨texts, htexts⟩ := rounds_total h hall fun hround =>
        renderAll_of_closed hround body hbody
      refine ⟨String.join texts, ?_⟩
      rw [Piece.render, hd]
      simp only [bind, Except.bind, hds]
      rw [htexts]
      rfl
  | whenTrue condition body =>
      rw [Piece.closed, Bool.and_eq_true] at hp
      obtain ⟨shape, hshape⟩ := Option.isSome_iff_exists.mp hp.1
      obtain ⟨d, hd, -⟩ := condition.eval_of_shape h hshape
      obtain ⟨text, htext⟩ := renderAll_of_closed h body hp.2
      refine ⟨if d.toValue.truthy then text else "", ?_⟩
      rw [Piece.render, hd]
      simp only [bind, Except.bind, htext]
      split <;> rfl
  | whenFalse condition body =>
      rw [Piece.closed, Bool.and_eq_true] at hp
      obtain ⟨shape, hshape⟩ := Option.isSome_iff_exists.mp hp.1
      obtain ⟨d, hd, -⟩ := condition.eval_of_shape h hshape
      obtain ⟨text, htext⟩ := renderAll_of_closed h body hp.2
      refine ⟨if d.toValue.truthy then "" else text, ?_⟩
      rw [Piece.render, hd]
      simp only [bind, Except.bind, htext]
      split <;> rfl

theorem renderAll_of_closed {s : Scope} {sig : Signature} (h : s.Fits sig) (ps : List Piece)
    (hps : closedAll sig ps = true) : ∃ text, renderAll s ps = .ok text := by
  cases ps with
  | nil => exact ⟨"", by rw [renderAll]⟩
  | cons p rest =>
      rw [closedAll, Bool.and_eq_true] at hps
      obtain ⟨first, hfirst⟩ := Piece.render_of_closed h p hps.1
      obtain ⟨more, hmore⟩ := renderAll_of_closed h rest hps.2
      refine ⟨first ++ more, ?_⟩
      rw [renderAll, hfirst, hmore]
      rfl

end

end Formwork.Template
