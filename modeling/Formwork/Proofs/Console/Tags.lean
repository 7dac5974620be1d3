import Formwork.Console.Item

/-!
Tags that are closed again. The tags of a message switch one style on and off, and in the text
between them there may be anything that is read as plain text. Pieces are gone through from the
last one to the first: what can be shown stays so with one more piece before it.
-/

namespace Formwork.Console.Markup

/-- A style whose tag is remembered under its own name, so that a closing tag finds it. -/
structure StyleTag (word : String) : Prop where
  split : splitTag word.toList = (word, none)
  splitClosing : splitTag ('/' :: word.toList) = ("/" ++ word, none)
  head : ∃ c rest, word.toList = c :: rest ∧ c ≠ '/' ∧ c ≠ '@'
  strip : Text.strip word = word
  canonical : canonical word = .ok word
  check : checkStyle word = .ok ()

namespace StyleTag

variable {word : String}

theorem ne_empty (h : StyleTag word) : word ≠ "" := by
  obtain ⟨c, rest, hword, -⟩ := h.head
  rintro rfl
  exact absurd hword (by simp)

theorem closeTag_eq (h : StyleTag word) (start position : Nat) (opened : List OpenTag)
    (body : List Char) :
    closeTag (⟨start, ⟨word, none⟩⟩ :: opened) position body word =
      .ok (⟨start, ⟨word, none⟩⟩, opened) := by
  have hclose : close? (some word) (⟨start, ⟨word, none⟩⟩ :: opened) =
      some (⟨start, ⟨word, none⟩⟩, opened) := by simp [close?]
  rw [closeTag, if_neg h.ne_empty, h.canonical]
  simp only [bind, Except.bind, hclose]
  rfl

theorem closedStyle_eq (h : StyleTag word) : closedStyle ⟨word, none⟩ = .ok (some word) := by
  obtain ⟨c, rest, hword, -, haction⟩ := h.head
  rw [closedStyle, hword, if_pos (by simpa using haction)]
  rfl

theorem renderFrom_opening (h : StyleTag word) (length position : Nat) (opened : List OpenTag)
    (ps : List Piece) :
    renderFrom length opened (.tag position word.toList :: ps) =
      (renderFrom length (⟨length, ⟨word, none⟩⟩ :: opened) ps).map fun r =>
        { r with text := r.text.opened } := by
  obtain ⟨c, rest, hword, hslash, -⟩ := h.head
  rw [renderFrom, h.split]
  simp only [hword, h.canonical, bind, Except.bind]
  split
  case h_1 heq => exact absurd (List.cons.inj heq).1 hslash
  case h_2 => rfl

theorem renderFrom_closing (h : StyleTag word) (length start position : Nat)
    (opened : List OpenTag) (ps : List Piece) :
    renderFrom length (⟨start, ⟨word, none⟩⟩ :: opened) (.tag position ('/' :: word.toList) :: ps) =
      (renderFrom length opened ps).map fun r =>
        { text := r.text.opened, styles := (start, word) :: r.styles } := by
  have hclosing : ("/" ++ word).toList = '/' :: word.toList := by simp
  rw [renderFrom, h.splitClosing]
  simp only [hclosing, String.ofList_toList, h.strip, h.closeTag_eq, h.closedStyle_eq, bind,
    Except.bind]
  rfl

/-- A tag is not closed where none is open. -/
theorem renderFrom_unopened (h : StyleTag word) (length position : Nat) (ps : List Piece) :
    renderFrom length [] (.tag position ('/' :: word.toList) :: ps) =
      .error (.neverOpened ("[" ++ String.ofList ('/' :: word.toList) ++ "]") position) := by
  have hclosing : ("/" ++ word).toList = '/' :: word.toList := by simp
  have hclose : closeTag [] position ('/' :: word.toList) word =
      .error (.neverOpened ("[" ++ String.ofList ('/' :: word.toList) ++ "]") position) := by
    rw [closeTag, if_neg h.ne_empty, h.canonical]
    rfl
  rw [renderFrom, h.splitClosing]
  simp only [hclosing, String.ofList_toList, h.strip, hclose, bind, Except.bind]

end StyleTag

/-- Pieces that are shown behind open tags, in no style but one. -/
def Renders (word : String) (opened : List OpenTag) (ps : List Piece) : Prop :=
  ∀ length, ∃ r, renderFrom length opened ps = .ok r ∧ ∀ style ∈ r.styles, style.2 = word

section

variable {word : String} {opened : List OpenTag} {ps : List Piece}

theorem renders_nil (hopened : ∀ o ∈ opened, o.tag = ⟨word, none⟩) : Renders word opened [] := by
  intro length
  refine ⟨_, rfl, fun style hstyle => ?_⟩
  obtain ⟨o, ho, rfl⟩ := List.mem_map.mp hstyle
  rw [hopened o ho]
  rfl

theorem Renders.plain (h : Renders word opened ps) (cs : List Char) :
    Renders word opened (.plain cs :: ps) := by
  intro length
  obtain ⟨r, hr, hstyles⟩ := h (length + (shown cs).length)
  rw [renderFrom]
  simp only [hr]
  exact ⟨_, rfl, hstyles⟩

theorem Renders.flush (h : Renders word opened ps) (plain : List Char) :
    Renders word opened (flush plain ++ ps) := by
  rw [Markup.flush]
  split
  · exact h
  · exact h.plain _

theorem Renders.opening (htag : StyleTag word)
    (h : ∀ start, Renders word (⟨start, ⟨word, none⟩⟩ :: opened) ps) (position : Nat) :
    Renders word opened (.tag position word.toList :: ps) := by
  intro length
  obtain ⟨r, hr, hstyles⟩ := h length length
  rw [htag.renderFrom_opening, hr]
  exact ⟨_, rfl, hstyles⟩

theorem Renders.closing (htag : StyleTag word) (h : Renders word opened ps)
    (start position : Nat) :
    Renders word (⟨start, ⟨word, none⟩⟩ :: opened) (.tag position ('/' :: word.toList) :: ps) := by
  intro length
  obtain ⟨r, hr, hstyles⟩ := h length
  rw [htag.renderFrom_closing, hr]
  exact ⟨_, rfl, List.forall_mem_cons.mpr ⟨rfl, hstyles⟩⟩

/-- Pieces that fail behind open tags, wherever they stand. -/
def Fails (e : RenderError) (opened : List OpenTag) (ps : List Piece) : Prop :=
  ∀ length, renderFrom length opened ps = .error e

variable {e : RenderError}

theorem Fails.plain (h : Fails e opened ps) (cs : List Char) :
    Fails e opened (.plain cs :: ps) := by
  intro length
  rw [renderFrom]
  simp only [h _]
  rfl

theorem Fails.opening (htag : StyleTag word)
    (h : ∀ start, Fails e (⟨start, ⟨word, none⟩⟩ :: opened) ps) (position : Nat) :
    Fails e opened (.tag position word.toList :: ps) := by
  intro length
  rw [htag.renderFrom_opening, h length length]
  rfl

theorem Fails.closing (htag : StyleTag word) (h : Fails e opened ps) (start position : Nat) :
    Fails e (⟨start, ⟨word, none⟩⟩ :: opened) (.tag position ('/' :: word.toList) :: ps) := by
  intro length
  rw [htag.renderFrom_closing, h length]
  rfl

theorem fails_unopened (htag : StyleTag word) (position : Nat) :
    Fails (.neverOpened ("[" ++ String.ofList ('/' :: word.toList) ++ "]") position) []
      (.tag position ('/' :: word.toList) :: ps) :=
  fun length => htag.renderFrom_unopened length position ps

theorem Fails.render {markup : String} (h : Fails e [] (pieces markup.toList)) :
    render markup = .error e := by
  rw [Markup.render, h 0]
  rfl

end

/-- Markup that is well formed, and of which every style can be looked up. -/
def WellFormed (markup : String) : Prop :=
  ∃ r, render markup = .ok r ∧ ∀ style ∈ r.styles, checkStyle style.2 = .ok ()

theorem Renders.wellFormed {word markup : String} (htag : StyleTag word)
    (h : Renders word [] (pieces markup.toList)) : WellFormed markup := by
  obtain ⟨r, hr, hstyles⟩ := h 0
  rw [WellFormed, render, hr]
  refine ⟨_, rfl, fun style hstyle => ?_⟩
  rw [hstyles style (by simpa using hstyle)]
  exact htag.check

end Formwork.Console.Markup
