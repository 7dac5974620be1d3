import Formwork.Proofs.Outcome
import Formwork.Proofs.Template.Rendering

/-!
Rendered text and where it comes from. A template puts texts of its own beside what it looks up, and
nothing in the rendered text keeps the two apart. The same walk with the origin of each part gives
the same text once the origins are forgotten, so what a template emits of itself can be told from
what a value happens to hold.
-/

namespace Formwork.Template

/-- A part of a rendered text: the template's own, or filled from the scope. -/
inductive Part
  | own (text : String)
  | filled (text : String)
  deriving DecidableEq, Repr

def Part.text : Part → String
  | .own text | .filled text => text

def joined (parts : List Part) : String := String.join (parts.map Part.text)

/-- What is left of a part when the places of a template stay empty. -/
def Part.frame : Part → List Char
  | .own text => text.toList
  | .filled _ => []

/-- The text that parts have of the template, with nothing where a place was filled. -/
def frame (parts : List Part) : List Char := parts.flatMap Part.frame

mutual

def Piece.parts (s : Scope) : Piece → Except Error (List Part)
  | .text t => .ok [.own t]
  | .value e => do return [.filled (← textOf (← e.eval s).toValue)]
  | .each binder items body => do
    let partsOfRounds ← (rounds s binder (← (← items.eval s).items)).mapM fun round =>
      partsAll round body
    return partsOfRounds.flatten
  | .whenTrue condition body => do
    if (← condition.eval s).toValue.truthy then partsAll s body else return []
  | .whenFalse condition body => do
    if (← condition.eval s).toValue.truthy then return [] else partsAll s body

def partsAll (s : Scope) : List Piece → Except Error (List Part)
  | [] => .ok []
  | p :: rest => do
    let parts ← p.parts s
    let more ← partsAll s rest
    return parts ++ more

end

/-! ### Forgetting the origins -/

theorem joined_append (parts more : List Part) :
    joined (parts ++ more) = joined parts ++ joined more := by
  rw [joined, List.map_append, String.join_append]
  rfl

theorem joined_flatten (partsOfRounds : List (List Part)) :
    joined partsOfRounds.flatten = String.join (partsOfRounds.map joined) := by
  induction partsOfRounds with
  | nil => rfl
  | cons parts more ih => rw [List.flatten_cons, joined_append, ih, List.map_cons, String.join_cons]

theorem mapM_map {α β γ ε : Type} (f : α → Except ε β) (g : β → γ) (as : List α) :
    (as.mapM fun a => (f a).map g) = (as.mapM f).map (List.map g) := by
  induction as with
  | nil => rfl
  | cons a as ih =>
      rw [List.mapM_cons, List.mapM_cons, ih]
      cases f a with
      | error e => rfl
      | ok b => cases as.mapM f <;> rfl

theorem exists_of_map_eq_ok {α β ε : Type} {f : α → β} {x : Except ε α} {b : β}
    (h : x.map f = .ok b) : ∃ a, x = .ok a := by
  cases x with
  | error e => cases h
  | ok a => exact ⟨a, rfl⟩

mutual

theorem Piece.render_eq (s : Scope) (p : Piece) : p.render s = (p.parts s).map joined := by
  cases p with
  | text t =>
      rw [Piece.render, Piece.parts]
      simp [Except.map, joined, Part.text]
  | value e =>
      rw [Piece.render, Piece.parts]
      cases e.eval s with
      | error e => rfl
      | ok d =>
          simp only [bind, Except.bind]
          cases textOf d.toValue <;> simp [pure, Except.pure, Except.map, joined, Part.text]
  | each binder items body =>
      have hbody : (fun round => renderAll round body) = fun round =>
          (partsAll round body).map joined := funext fun round => renderAll_eq round body
      rw [Piece.render, Piece.parts, hbody]
      cases items.eval s with
      | error e => rfl
      | ok d =>
          cases hitems : d.items with
          | error e => simp only [bind, Except.bind, hitems]; rfl
          | ok ds =>
              simp only [bind, Except.bind, hitems, mapM_map]
              cases (rounds s binder ds).mapM fun round => partsAll round body with
              | error e => rfl
              | ok partsOfRounds => exact congrArg Except.ok (joined_flatten partsOfRounds).symm
  | whenTrue condition body =>
      rw [Piece.render, Piece.parts, renderAll_eq]
      cases condition.eval s with
      | error e => rfl
      | ok d =>
          simp only [bind, Except.bind]
          split <;> rfl
  | whenFalse condition body =>
      rw [Piece.render, Piece.parts, renderAll_eq]
      cases condition.eval s with
      | error e => rfl
      | ok d =>
          simp only [bind, Except.bind]
          split <;> rfl

theorem renderAll_eq (s : Scope) (ps : List Piece) :
    renderAll s ps = (partsAll s ps).map joined := by
  cases ps with
  | nil => rw [renderAll, partsAll]; rfl
  | cons p rest =>
      rw [renderAll, partsAll, Piece.render_eq, renderAll_eq]
      cases p.parts s with
      | error e => rfl
      | ok parts =>
          cases partsAll s rest with
          | error e => rfl
          | ok more => exact congrArg Except.ok (joined_append parts more).symm

end

/-! ### Parts of longer templates -/

@[simp] theorem frame_append (parts more : List Part) :
    frame (parts ++ more) = frame parts ++ frame more :=
  List.flatMap_append

theorem frame_flatten (partsOfRounds : List (List Part)) :
    frame partsOfRounds.flatten = partsOfRounds.flatMap frame := by
  induction partsOfRounds with
  | nil => rfl
  | cons parts more ih => rw [List.flatten_cons, frame_append, ih, List.flatMap_cons]

theorem frame_own (text : String) : frame [.own text] = text.toList :=
  List.flatMap_singleton _ _

theorem frame_of_value {s : Scope} {e : Expr} {parts : List Part}
    (h : (Piece.value e).parts s = .ok parts) : frame parts = [] := by
  rw [Piece.parts] at h
  obtain ⟨d, -, htext⟩ := bind_eq_ok.mp h
  obtain ⟨text, -, hparts⟩ := bind_eq_ok.mp htext
  cases hparts
  rfl

theorem exists_of_partsAll_cons {s : Scope} {p : Piece} {rest : List Piece} {parts : List Part}
    (h : partsAll s (p :: rest) = .ok parts) :
    ∃ first more, p.parts s = .ok first ∧ partsAll s rest = .ok more ∧ parts = first ++ more := by
  rw [partsAll] at h
  cases hp : p.parts s with
  | error e => rw [hp] at h; cases h
  | ok first =>
      cases hrest : partsAll s rest with
      | error e => rw [hp, hrest] at h; cases h
      | ok more =>
          rw [hp, hrest] at h
          cases h
          exact ⟨first, more, rfl, rfl, rfl⟩

theorem exists_of_partsAll_append {s : Scope} (front : List Piece) {back : List Piece}
    {parts : List Part} (h : partsAll s (front ++ back) = .ok parts) :
    ∃ first more, partsAll s front = .ok first ∧ partsAll s back = .ok more ∧
      parts = first ++ more := by
  induction front generalizing parts with
  | nil => exact ⟨[], parts, by rw [partsAll], h, rfl⟩
  | cons p front ih =>
      obtain ⟨first, more, hp, hmore, rfl⟩ := exists_of_partsAll_cons h
      obtain ⟨second, third, hfront, hback, rfl⟩ := ih hmore
      refine ⟨first ++ second, third, ?_, hback, (List.append_assoc _ _ _).symm⟩
      rw [partsAll, hp, hfront]
      rfl

theorem exists_of_parts_each {s : Scope} {binder : String} {items : Expr} {body : List Piece}
    {parts : List Part} (h : (Piece.each binder items body).parts s = .ok parts) :
    ∃ (d : Datum) (ds : List Datum) (partsOfRounds : List (List Part)),
      items.eval s = .ok d ∧ d.items = .ok ds ∧ parts = partsOfRounds.flatten ∧
      (rounds s binder ds).map (fun round => partsAll round body) = partsOfRounds.map .ok := by
  rw [Piece.parts] at h
  cases hd : items.eval s with
  | error e => rw [hd] at h; cases h
  | ok d =>
      cases hds : d.items with
      | error e => simp only [hd, hds, bind, Except.bind] at h; cases h
      | ok ds =>
          simp only [hd, hds, bind, Except.bind] at h
          cases hrounds : (rounds s binder ds).mapM fun round => partsAll round body with
          | error e => rw [hrounds] at h; cases h
          | ok partsOfRounds =>
              rw [hrounds] at h
              cases h
              exact ⟨d, ds, partsOfRounds, rfl, hds, rfl, mapM_eq_ok.mp hrounds⟩

theorem exists_round {s : Scope} {binder : String} {ds : List Datum} {body : List Piece}
    {partsOfRounds : List (List Part)}
    (hrounds : (rounds s binder ds).map (fun round => partsAll round body) =
      partsOfRounds.map .ok) {parts : List Part} (h : parts ∈ partsOfRounds) :
    ∃ round, partsAll round body = .ok parts := by
  have hround : Except.ok parts ∈ (rounds s binder ds).map fun round => partsAll round body :=
    hrounds ▸ List.mem_map_of_mem h
  obtain ⟨round, -, hround⟩ := List.mem_map.mp hround
  exact ⟨round, hround⟩

theorem exists_of_parts_whenTrue {s : Scope} {condition : Expr} {body : List Piece}
    {parts : List Part} (h : (Piece.whenTrue condition body).parts s = .ok parts) :
    ∃ d, condition.eval s = .ok d ∧
      (d.toValue.truthy = true ∧ partsAll s body = .ok parts ∨
        d.toValue.truthy = false ∧ parts = []) := by
  rw [Piece.parts] at h
  cases hd : condition.eval s with
  | error e => rw [hd] at h; cases h
  | ok d =>
      simp only [hd, bind, Except.bind] at h
      cases htruthy : d.toValue.truthy with
      | true => exact ⟨d, rfl, .inl ⟨htruthy, by rwa [if_pos htruthy] at h⟩⟩
      | false =>
          rw [if_neg (by rw [htruthy]; exact Bool.false_ne_true)] at h
          cases h
          exact ⟨d, rfl, .inr ⟨htruthy, rfl⟩⟩

theorem exists_of_parts_whenFalse {s : Scope} {condition : Expr} {body : List Piece}
    {parts : List Part} (h : (Piece.whenFalse condition body).parts s = .ok parts) :
    partsAll s body = .ok parts ∨ parts = [] := by
  rw [Piece.parts] at h
  cases hd : condition.eval s with
  | error e => rw [hd] at h; cases h
  | ok d =>
      simp only [hd, bind, Except.bind] at h
      split at h
      · cases h
        exact .inr rfl
      · exact .inl h

end Formwork.Template
