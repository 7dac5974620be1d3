import Formwork.Proofs.Number.Limited
import Formwork.Template.Basic

/-!
Rendering piece by piece. Each rule takes one piece off the front of a template and puts its text
in front of the text of the rest, so that the text of a whole template is read off its pieces from
left to right. A loop puts the texts of its rounds side by side.
-/

namespace Formwork.Template

def preceded (text : String) (rest : Except Error String) : Except Error String :=
  rest.map (text ++ ·)

@[simp] theorem preceded_ok (text more : String) :
    preceded text (.ok more) = .ok (text ++ more) := rfl

@[simp] theorem renderAll_nil (s : Scope) : renderAll s [] = .ok "" := by
  rw [renderAll]

theorem renderAll_cons {s : Scope} {p : Piece} {text : String} (h : p.render s = .ok text)
    (rest : List Piece) :
    renderAll s (p :: rest) = preceded text (renderAll s rest) := by
  rw [renderAll, h]
  cases renderAll s rest <;> rfl

theorem renderAll_append (s : Scope) (front back : List Piece) {text : String}
    (h : renderAll s front = .ok text) :
    renderAll s (front ++ back) = preceded text (renderAll s back) := by
  induction front generalizing text with
  | nil =>
      rw [renderAll_nil] at h
      cases h
      cases hback : renderAll s back with
      | error e => simp [hback, preceded, Except.map]
      | ok more => simp [hback]
  | cons p front ih =>
      rw [renderAll] at h
      cases hp : p.render s with
      | error e => rw [hp] at h; cases h
      | ok first =>
          cases hfront : renderAll s front with
          | error e => rw [hp, hfront] at h; cases h
          | ok second =>
              rw [hp, hfront] at h
              cases h
              rw [List.cons_append, renderAll_cons hp, ih hfront]
              cases renderAll s back with
              | error e => rfl
              | ok more => simp [String.append_assoc]

@[simp] theorem renderAll_text (s : Scope) (t : String) (rest : List Piece) :
    renderAll s (.text t :: rest) = preceded t (renderAll s rest) :=
  renderAll_cons (by rw [Piece.render]) rest

@[simp] theorem renderAll_line (s : Scope) (t : String) (rest : List Piece) :
    renderAll s (line t :: rest) = preceded (t ++ "\n") (renderAll s rest) :=
  renderAll_text s (t ++ "\n") rest

@[simp] theorem textOf_str (t : String) : textOf (.str t) = .ok t := by
  simp [textOf, Value.write, Value.isWritable, Value.display, Except.mapError]

theorem apply_join (separator : String) (texts : List String) :
    (Filter.join separator).apply (.list (texts.map .str)) =
      .ok (.str (separator.intercalate texts)) := by
  have htexts : ((texts.map Value.str).map Datum.value).mapM
      (fun d : Datum => textOf d.toValue) = .ok texts := by
    induction texts with
    | nil => rfl
    | cons t texts ih =>
        rw [List.map_cons, List.map_cons, List.mapM_cons, ih]
        simp only [Datum.toValue, textOf_str]
        rfl
  show (do
    let texts ← ((texts.map Value.str).map Datum.value).mapM fun d : Datum => textOf d.toValue
    return Value.str (separator.intercalate texts)) = _
  rw [htexts]
  rfl

theorem renderAll_value {s : Scope} {e : Expr} {t : String} (h : e.eval s = .ok (.value (.str t)))
    (rest : List Piece) :
    renderAll s (.value e :: rest) = preceded t (renderAll s rest) :=
  renderAll_cons (by rw [Piece.render, h]; exact textOf_str t) rest

theorem eval_named {s : Scope} {name : String} {d : Datum} (h : s.names.lookup name = some d) :
    (Expr.named name).eval s = .ok d := by
  rw [Expr.eval, h]

theorem renderAll_slot {s : Scope} {name t : String}
    (h : s.names.lookup name = some (.value (.str t))) (rest : List Piece) :
    renderAll s (slot name :: rest) = preceded t (renderAll s rest) :=
  renderAll_value (eval_named h) rest

theorem renderAll_slotOf {s : Scope} {name member t : String} {members : List (String × Value)}
    (hobject : s.names.lookup name = some (.value (.object members)))
    (hmember : Value.member? members member = some (.str t)) (rest : List Piece) :
    renderAll s (slotOf name member :: rest) = preceded t (renderAll s rest) := by
  have heval : (Expr.member (.named name) member).eval s = .ok (.value (.str t)) := by
    rw [Expr.eval, eval_named hobject]
    simp only [bind, Except.bind, hmember]
  exact renderAll_value heval rest

theorem renderAll_each {s : Scope} {binder : String} {items : Expr} {body : List Piece}
    {d : Datum} {ds : List Datum} {texts : List String} (hitems : items.eval s = .ok d)
    (hds : d.items = .ok ds)
    (hrounds : (rounds s binder ds).mapM (fun round => renderAll round body) = .ok texts)
    (rest : List Piece) :
    renderAll s (.each binder items body :: rest) =
      preceded (String.join texts) (renderAll s rest) := by
  refine renderAll_cons ?_ rest
  rw [Piece.render, hitems]
  show (do
    let ds ← d.items
    let texts ← (rounds s binder ds).mapM fun round => renderAll round body
    return String.join texts) = _
  rw [hds]
  show (do
    let texts ← (rounds s binder ds).mapM fun round => renderAll round body
    return String.join texts) = _
  rw [hrounds]
  rfl

theorem mapM_rounds_eq {α : Type} (s : Scope) (binder : String) (body : List Piece)
    (datum : α → Datum) (text : α → Except Error String)
    (h : ∀ a isLast, renderAll (s.round binder (datum a) isLast) body = text a) (as : List α) :
    (rounds s binder (as.map datum)).mapM (fun round => renderAll round body) = as.mapM text := by
  induction as with
  | nil => rfl
  | cons a as ih =>
      cases as with
      | nil => simp only [List.map_cons, List.map_nil, rounds, List.mapM_cons, List.mapM_nil, h]
      | cons b as =>
          simp only [List.map_cons, rounds] at ih ⊢
          rw [List.mapM_cons, h, ih]
          simp only [List.mapM_cons]

theorem mapM_rounds {α : Type} (s : Scope) (binder : String) (body : List Piece)
    (datum : α → Datum) (text : α → String)
    (h : ∀ a isLast, renderAll (s.round binder (datum a) isLast) body = .ok (text a))
    (as : List α) :
    (rounds s binder (as.map datum)).mapM (fun round => renderAll round body) =
      .ok (as.map text) := by
  rw [mapM_rounds_eq s binder body datum (fun a => .ok (text a)) h]
  exact List.mapM_pure

theorem mapM_rounds_separated {α : Type} (s : Scope) (binder separator : String)
    (body : List Piece) (datum : α → Datum) (text : α → String)
    (h : ∀ a isLast, renderAll (s.round binder (datum a) isLast) body =
      .ok (text a ++ ((if isLast then "" else separator) ++ "\n"))) (as : List α) (hne : as ≠ []) :
    ∃ texts, (rounds s binder (as.map datum)).mapM (fun round => renderAll round body) =
        .ok texts ∧
      String.join texts = (separator ++ "\n").intercalate (as.map text) ++ "\n" := by
  induction as with
  | nil => exact absurd rfl hne
  | cons a as ih =>
      cases as with
      | nil =>
          refine ⟨[text a ++ ("" ++ "\n")], ?_, ?_⟩
          · simp only [List.map_cons, List.map_nil, rounds, List.mapM_cons, h]
            rfl
          · simp [String.join_cons]
      | cons b as =>
          obtain ⟨texts, hmap, hjoin⟩ := ih (List.cons_ne_nil b as)
          refine ⟨(text a ++ (separator ++ "\n")) :: texts, ?_, ?_⟩
          · simp only [List.map_cons, rounds] at hmap ⊢
            rw [List.mapM_cons, h, hmap]
            rfl
          · rw [String.join_cons, hjoin]
            simp only [List.map_cons, String.intercalate_cons_cons, String.append_assoc]

theorem renderAll_whenTrue {s : Scope} {condition : Expr} {d : Datum}
    (h : condition.eval s = .ok d) (body rest : List Piece) {text : String}
    (hbody : d.toValue.truthy = true → renderAll s body = .ok text) :
    renderAll s (.whenTrue condition body :: rest) =
      preceded (if d.toValue.truthy then text else "") (renderAll s rest) := by
  refine renderAll_cons ?_ rest
  rw [Piece.render, h]
  show (if d.toValue.truthy then renderAll s body else return "") = _
  split
  · rename_i htrue
    exact hbody htrue
  · rfl

/-! ### Places that hold numbers

Rendering fails at a number that is too long to be written, wherever it stands. -/

def tooLong : Error := .oversized {}

@[simp] theorem preceded_limited (text : String) (short : Bool) (more : String) :
    preceded text (Number.limited tooLong short more) =
      Number.limited tooLong short (text ++ more) :=
  Number.limited_map tooLong short more (text ++ ·)

theorem textOf_eq (v : Value) : textOf v = Number.limited tooLong v.isWritable v.display :=
  Number.limited_mapError ({} : Number.Oversized) v.isWritable v.display Error.oversized

theorem renderAll_cons_limited {s : Scope} {p : Piece} {short : Bool} {text : String}
    (h : p.render s = Number.limited tooLong short text) (rest : List Piece) :
    renderAll s (p :: rest) =
      Number.limited tooLong short text >>= fun text => preceded text (renderAll s rest) := by
  rw [renderAll, h]
  cases short
  · rfl
  · cases renderAll s rest <;> rfl

theorem render_value_limited {s : Scope} {e : Expr} {v : Value} (h : e.eval s = .ok (.value v)) :
    (Piece.value e).render s = Number.limited tooLong v.isWritable v.display := by
  rw [Piece.render, h]
  exact textOf_eq v

theorem render_literal_limited {s : Scope} {e : Expr} {v : Value}
    (h : e.eval s = .ok (.value v)) :
    (Piece.value (.filtered e .literal)).render s =
      Number.limited tooLong v.isWritable (TypeScript.literalText v) := by
  have hliteral : Filter.literal.apply v =
      Number.limited tooLong v.isWritable (.str (TypeScript.literalText v)) := by
    rw [Filter.apply, show TypeScript.literal v =
      Number.limited {} v.isWritable (TypeScript.literalText v) from rfl, Number.limited_mapError]
    exact Number.limited_bind_pure _ _ _ _
  rw [Piece.render, Expr.eval, h]
  show (do textOf (← (do return Datum.value (← Filter.literal.apply v))).toValue) = _
  rw [hliteral, Number.limited_bind_pure]
  cases v.isWritable
  · rfl
  · exact textOf_str _

theorem render_each_limited {s : Scope} {binder : String} {items : Expr} {body : List Piece}
    {d : Datum} {ds : List Datum} {short : Bool} {texts : List String}
    (hitems : items.eval s = .ok d) (hds : d.items = .ok ds)
    (hrounds : (rounds s binder ds).mapM (fun round => renderAll round body) =
      Number.limited tooLong short texts) :
    (Piece.each binder items body).render s =
      Number.limited tooLong short (String.join texts) := by
  rw [Piece.render, hitems]
  simp only [bind, Except.bind, hds]
  rw [hrounds]
  exact Number.limited_bind_pure tooLong short texts String.join

end Formwork.Template
