import Formwork.Proofs.Template.Origin

/-!
What a reader comes upon in the frame of a template. A reader goes through a text from place to
place, and finds names on its way. The frame that is rendered depends on the scope: a loop has any
number of rounds, and a condition may hold or not. Where the body of a loop or of a condition leaves
the reader at the place it came from, that makes no difference to where the reader is afterwards, so
a template is surveyed once for every scope.
-/

namespace Formwork.Template

abbrev Reader (Place : Type) := Place → Char → Place × List String

variable {Place : Type}

def Reader.read (r : Reader Place) (place : Place) : List Char → Place × List String
  | [] => (place, [])
  | c :: cs =>
    let next := r place c
    let rest := r.read next.1 cs
    (rest.1, next.2 ++ rest.2)

theorem Reader.read_append (r : Reader Place) (place : Place) (front back : List Char) :
    r.read place (front ++ back) =
      ((r.read (r.read place front).1 back).1,
        (r.read place front).2 ++ (r.read (r.read place front).1 back).2) := by
  induction front generalizing place with
  | nil => rfl
  | cons c front ih =>
      rw [List.cons_append, Reader.read, ih, Reader.read]
      simp only [List.append_assoc]

theorem Reader.read_flatMap {α : Type} (r : Reader Place) (place : Place) (text : α → List Char)
    (as : List α) (h : ∀ a ∈ as, (r.read place (text a)).1 = place) :
    r.read place (as.flatMap text) = (place, as.flatMap fun a => (r.read place (text a)).2) := by
  induction as with
  | nil => rfl
  | cons a as ih =>
      have hrest := ih fun b hb => h b (List.mem_cons_of_mem a hb)
      rw [List.flatMap_cons, List.flatMap_cons, r.read_append, h a List.mem_cons_self, hrest]

/-- A reader of a text ends where the survey says, with no name that is not in it. -/
def Surveyed (r : Reader Place) (place : Place) (text : List Char)
    (behind : Place × List String) : Prop :=
  (r.read place text).1 = behind.1 ∧ (r.read place text).2 ⊆ behind.2

theorem Surveyed.nil (r : Reader Place) (place : Place) (found : List String) :
    Surveyed r place [] (place, found) :=
  ⟨rfl, List.nil_subset found⟩

theorem Surveyed.read_eq {r : Reader Place} {place behind : Place} {text : List Char}
    (h : Surveyed r place text (behind, [])) : r.read place text = (behind, []) :=
  Prod.ext h.1 (List.subset_nil.mp h.2)

theorem Surveyed.append {r : Reader Place} {place : Place} {front back : List Char}
    {first more : Place × List String} (hfront : Surveyed r place front first)
    (hback : Surveyed r first.1 back more) :
    Surveyed r place (front ++ back) (more.1, first.2 ++ more.2) := by
  rw [Surveyed, r.read_append, hfront.1]
  exact ⟨hback.1, List.append_subset.mpr
    ⟨List.subset_append_of_subset_left _ hfront.2, List.subset_append_of_subset_right _ hback.2⟩⟩

theorem Surveyed.flatMap {α : Type} {r : Reader Place} {place : Place} {text : α → List Char}
    {as : List α} {behind : Place × List String}
    (h : ∀ a ∈ as, Surveyed r place (text a) behind) (hsame : behind.1 = place) :
    Surveyed r place (as.flatMap text) behind := by
  rw [Surveyed, r.read_flatMap place text as fun a ha => (h a ha).1.trans hsame]
  refine ⟨hsame.symm, fun name hname => ?_⟩
  obtain ⟨a, ha, hname⟩ := List.mem_flatMap.mp hname
  exact (h a ha).2 hname

variable [DecidableEq Place]

mutual

/-- Where a reader is behind a piece, and the names that it may have found, if the place does not
depend on the scope. -/
def Piece.survey (r : Reader Place) (place : Place) : Piece → Option (Place × List String)
  | .text t => some (r.read place t.toList)
  | .value _ => some (place, [])
  | .each _ _ body | .whenTrue _ body | .whenFalse _ body =>
    (surveyAll r place body).filter fun behind => behind.1 = place

/-- Where a reader is behind pieces in a row, and the names that it may have found. -/
def surveyAll (r : Reader Place) (place : Place) : List Piece → Option (Place × List String)
  | [] => some (place, [])
  | p :: rest => do
    let first ← p.survey r place
    let more ← surveyAll r first.1 rest
    return (more.1, first.2 ++ more.2)

end

theorem exists_of_surveyAll_cons {r : Reader Place} {place : Place} {p : Piece} {rest : List Piece}
    {behind : Place × List String} (h : surveyAll r place (p :: rest) = some behind) :
    ∃ first more, p.survey r place = some first ∧ surveyAll r first.1 rest = some more ∧
      behind = (more.1, first.2 ++ more.2) := by
  rw [surveyAll] at h
  obtain ⟨first, hfirst, h⟩ := Option.bind_eq_some_iff.mp h
  obtain ⟨more, hmore, h⟩ := Option.bind_eq_some_iff.mp h
  exact ⟨first, more, hfirst, hmore, (Option.some.inj h).symm⟩

/-! ### The survey holds in every scope -/

mutual

theorem Piece.surveyed (r : Reader Place) (p : Piece) {s : Scope} {place : Place}
    {behind : Place × List String} {parts : List Part} (hsurvey : p.survey r place = some behind)
    (h : p.parts s = .ok parts) : Surveyed r place (frame parts) behind := by
  cases p with
  | text t =>
      rw [Piece.survey] at hsurvey
      rw [Piece.parts] at h
      cases hsurvey
      cases h
      rw [frame_own]
      exact ⟨rfl, List.Subset.refl _⟩
  | value e =>
      rw [Piece.survey] at hsurvey
      cases hsurvey
      rw [frame_of_value h]
      exact .nil r place []
  | each binder items body =>
      rw [Piece.survey] at hsurvey
      obtain ⟨hsurvey, hsame⟩ := Option.filter_eq_some_iff.mp hsurvey
      obtain ⟨d, ds, partsOfRounds, -, -, rfl, hrounds⟩ := exists_of_parts_each h
      rw [frame_flatten]
      refine .flatMap (fun parts hparts => ?_) (of_decide_eq_true hsame)
      obtain ⟨round, hround⟩ := exists_round hrounds hparts
      exact surveyedAll r body hsurvey hround
  | whenTrue condition body =>
      rw [Piece.survey] at hsurvey
      obtain ⟨hsurvey, hsame⟩ := Option.filter_eq_some_iff.mp hsurvey
      obtain ⟨d, -, ⟨-, hbody⟩ | ⟨-, rfl⟩⟩ := exists_of_parts_whenTrue h
      · exact surveyedAll r body hsurvey hbody
      · exact (of_decide_eq_true hsame : behind.1 = place) ▸ .nil r behind.1 behind.2
  | whenFalse condition body =>
      rw [Piece.survey] at hsurvey
      obtain ⟨hsurvey, hsame⟩ := Option.filter_eq_some_iff.mp hsurvey
      obtain hbody | rfl := exists_of_parts_whenFalse h
      · exact surveyedAll r body hsurvey hbody
      · exact (of_decide_eq_true hsame : behind.1 = place) ▸ .nil r behind.1 behind.2

theorem surveyedAll (r : Reader Place) (ps : List Piece) {s : Scope} {place : Place}
    {behind : Place × List String} {parts : List Part}
    (hsurvey : surveyAll r place ps = some behind) (h : partsAll s ps = .ok parts) :
    Surveyed r place (frame parts) behind := by
  cases ps with
  | nil =>
      rw [surveyAll] at hsurvey
      rw [partsAll] at h
      cases hsurvey
      cases h
      exact .nil r place []
  | cons p rest =>
      obtain ⟨first, more, hp, hrest, rfl⟩ := exists_of_surveyAll_cons hsurvey
      obtain ⟨front, back, hfront, hback, rfl⟩ := exists_of_partsAll_cons h
      rw [frame_append]
      exact (p.surveyed r hp hfront).append (surveyedAll r rest hrest hback)

end

/-! ### Pieces without loops and conditions -/

def isPlain : List Piece → Bool
  | [] => true
  | .text _ :: rest | .value _ :: rest => isPlain rest
  | _ => false

/-- Of plain pieces the survey says exactly what is found. -/
theorem read_of_isPlain {r : Reader Place} {s : Scope} {ps : List Piece}
    (hplain : isPlain ps = true) {place : Place} {behind : Place × List String}
    (hsurvey : surveyAll r place ps = some behind) {parts : List Part}
    (h : partsAll s ps = .ok parts) : r.read place (frame parts) = behind := by
  induction ps generalizing place behind parts with
  | nil =>
      rw [surveyAll] at hsurvey
      rw [partsAll] at h
      cases hsurvey
      cases h
      rfl
  | cons p rest ih =>
      obtain ⟨first, more, hp, hrest, rfl⟩ := exists_of_surveyAll_cons hsurvey
      obtain ⟨front, back, hfront, hback, rfl⟩ := exists_of_partsAll_cons h
      rw [frame_append, r.read_append]
      match p, hplain with
      | .text t, hplain =>
          rw [Piece.survey] at hp
          rw [Piece.parts] at hfront
          cases hp
          cases hfront
          rw [frame_own, ih hplain hrest hback]
      | .value e, hplain =>
          rw [Piece.survey] at hp
          cases hp
          rw [frame_of_value hfront, Reader.read, ih hplain hrest hback]

theorem length_rounds (s : Scope) (binder : String) (ds : List Datum) :
    (rounds s binder ds).length = ds.length := by
  induction ds with
  | nil => rfl
  | cons d ds ih =>
      cases ds with
      | nil => rfl
      | cons e ds => exact congrArg (· + 1) ih

theorem read_each {r : Reader Place} {s : Scope} {binder : String} {items : Expr}
    {body : List Piece} (hplain : isPlain body = true) {place : Place} {found : List String}
    (hsurvey : surveyAll r place body = some (place, found)) {d : Datum} {ds : List Datum}
    (hitems : items.eval s = .ok d) (hds : d.items = .ok ds) {parts : List Part}
    (h : (Piece.each binder items body).parts s = .ok parts) :
    r.read place (frame parts) = (place, (List.replicate ds.length found).flatten) := by
  obtain ⟨d', ds', partsOfRounds, hitems', hds', rfl, hrounds⟩ := exists_of_parts_each h
  obtain rfl : d' = d := Except.ok.inj (hitems'.symm.trans hitems)
  obtain rfl : ds' = ds := Except.ok.inj (hds'.symm.trans hds)
  have hlength : partsOfRounds.length = ds'.length := by
    have hlengths := congrArg List.length hrounds
    rw [List.length_map, List.length_map, length_rounds] at hlengths
    exact hlengths.symm
  have hread : ∀ parts ∈ partsOfRounds, r.read place (frame parts) = (place, found) := by
    intro parts hparts
    obtain ⟨round, hround⟩ := exists_round hrounds hparts
    exact read_of_isPlain hplain hsurvey hround
  rw [frame_flatten, r.read_flatMap place frame _ fun parts hparts => by rw [hread parts hparts],
    List.flatMap_def, ← hlength]
  refine congrArg (fun founds => (place, List.flatten founds)) (List.eq_replicate_iff.mpr ⟨?_, ?_⟩)
  · rw [List.length_map]
  · intro founds hfounds
    obtain ⟨parts, hparts, rfl⟩ := List.mem_map.mp hfounds
    rw [hread parts hparts]

theorem read_whenTrue {r : Reader Place} {s : Scope} {condition : Expr} {body : List Piece}
    (hplain : isPlain body = true) {place : Place} {found : List String}
    (hsurvey : surveyAll r place body = some (place, found)) {d : Datum}
    (hcondition : condition.eval s = .ok d) {parts : List Part}
    (h : (Piece.whenTrue condition body).parts s = .ok parts) :
    r.read place (frame parts) = (place, if d.toValue.truthy then found else []) := by
  obtain ⟨d', hcondition', ⟨htruthy, hbody⟩ | ⟨htruthy, rfl⟩⟩ := exists_of_parts_whenTrue h
  all_goals obtain rfl : d' = d := Except.ok.inj (hcondition'.symm.trans hcondition)
  · rw [if_pos htruthy]
    exact read_of_isPlain hplain hsurvey hbody
  · rw [htruthy]
    rfl

end Formwork.Template
