import Formwork.Proofs.Outcome
import Formwork.Subprocess
import Mathlib.Data.List.DropRight

/-!
What is reported of a command, whatever system runs it. What cannot be given to a system is refused
before anything is started. A command that ends in time is reported as it has ended, without the
blanks around its output, and a longer limit changes nothing, as long as a clock can count it. One
that does not end has the code of a failure.
-/

namespace Formwork

namespace Text

variable {p : Char → Bool}

theorem trimEndChars_eq (cs : List Char) : trimEndChars p cs = cs.rdropWhile p := rfl

theorem trimChars_trimChars (cs : List Char) :
    trimChars p (trimChars p cs) = trimChars p cs := by
  have hfront : (trimChars p cs).dropWhile p = trimChars p cs := by
    rw [trimChars, trimEndChars_eq, List.dropWhile_eq_self_iff]
    intro hpos
    have hfirst : (cs.dropWhile p).rdropWhile p <+: cs.dropWhile p :=
      List.rdropWhile_prefix p _
    have hne : cs.dropWhile p ≠ [] := fun hnil => by simp [hnil] at hpos
    rw [hfirst.getElem hpos, ← List.head_eq_getElem hne, List.head_dropWhile_not p hne]
    exact Bool.false_ne_true
  rw [trimChars, hfront, trimEndChars_eq, trimChars, trimEndChars_eq, List.rdropWhile_idempotent]

@[simp] theorem strip_strip (s : String) : strip (strip s) = strip s := by
  rw [strip, strip, String.toList_ofList, trimChars_trimChars]

end Text

namespace Subprocess

variable {system : System} {t : FileTree} {current : Place} {l : Launch} {ending : Ending}
  {limit : Value} {captured : Bool} {reply : Reply}

/-! ### Starting -/

/-- A text that a system can be given as a name or as a word. -/
def Nameable (s : String) : Prop :=
  Text.Utf8.firstUnnamed? s.toList = none ∧ '\x00' ∉ s.toList

/-- A launch whose words and variables can be given to a system. -/
def Launch.IsNamed (l : Launch) : Prop :=
  (∀ w ∈ l.request.words, Nameable w) ∧
    ∀ v ∈ l.added, Nameable v.1 ∧ Nameable v.2 ∧ '=' ∉ v.1.toList

theorem checkText_eq_ok {s : String} :
    checkText s = .ok () ↔ Text.Utf8.firstUnnamed? s.toList = none := by
  rw [checkText]
  cases Text.Utf8.firstUnnamed? s.toList <;> simp

theorem checkVariable_eq_ok {v : String × String} :
    checkVariable v = .ok () ↔ Text.Utf8.firstUnnamed? v.1.toList = none ∧ '=' ∉ v.1.toList ∧
      Text.Utf8.firstUnnamed? v.2.toList = none := by
  rw [← checkText_eq_ok, ← checkText_eq_ok, checkVariable]
  cases checkText v.1 with
  | error e => simp [bind, Except.bind]
  | ok u =>
      by_cases heq : '=' ∈ v.1.toList <;>
        simp [bind, Except.bind, heq, throw, throwThe, MonadExceptOf.throw]

theorem checkEnds_eq_ok {texts : List String} :
    checkEnds texts = .ok () ↔ ∀ s ∈ texts, '\x00' ∉ s.toList := by
  rw [checkEnds]
  split <;> simp_all

theorem exists_mapM_eq_ok {α : Type} {check : α → Except Fault Unit} {as : List α} :
    (∃ us, as.mapM check = .ok us) ↔ ∀ a ∈ as, check a = .ok () := by
  induction as with
  | nil => simp [pure, Except.pure]
  | cons a as ih =>
      rw [List.forall_mem_cons, ← ih, List.mapM_cons]
      cases check a with
      | error e => simp [bind, Except.bind]
      | ok u => cases as.mapM check <;> simp [bind, Except.bind, pure, Except.pure]

/-- The checks in front of a launch find exactly what cannot be given to a system. -/
theorem Launch.isNamed_iff :
    l.IsNamed ↔
      (∀ v ∈ l.added, checkVariable v = .ok ()) ∧
        (∀ w ∈ l.request.words, checkText w = .ok ()) ∧
        checkEnds l.request.words = .ok () ∧
        checkEnds (l.added.flatMap fun v => [v.1, v.2]) = .ok () := by
  have hends : (∀ s ∈ l.added.flatMap fun v => [v.1, v.2], '\x00' ∉ s.toList) ↔
      ∀ v ∈ l.added, '\x00' ∉ v.1.toList ∧ '\x00' ∉ v.2.toList := by
    simp only [List.mem_flatMap, List.mem_cons, List.not_mem_nil, or_false]
    grind
  simp only [checkVariable_eq_ok, checkText_eq_ok, checkEnds_eq_ok, hends, Launch.IsNamed,
    Nameable]
  grind

/-- A child is started exactly if its words and variables can be given and its directory can be
entered. -/
theorem launch_eq_ok :
    launch system t current l = .ok ending ↔
      l.IsNamed ∧ ∃ place, enter t current l.directory = .ok place ∧
        system place l = .ok ending := by
  rw [Launch.isNamed_iff, ← exists_mapM_eq_ok, ← exists_mapM_eq_ok, launch]
  simp only [bind_eq_ok]
  constructor
  · rintro ⟨us, hvariables, us', hwords, ⟨⟩, hends, ⟨⟩, hends', hsystem⟩
    exact ⟨⟨⟨us, hvariables⟩, ⟨us', hwords⟩, hends, hends'⟩, hsystem⟩
  · rintro ⟨⟨⟨us, hvariables⟩, ⟨us', hwords⟩, hends, hends'⟩, hsystem⟩
    exact ⟨us, hvariables, us', hwords, (), hends, (), hends', hsystem⟩

/-! ### Waiting -/

theorem isOver_mono {elapsed : Option Nat} {m n : Int} (hmn : m ≤ n)
    (h : isOver elapsed m 1 = false) : isOver elapsed n 1 = false := by
  cases elapsed with
  | none => exact absurd h (by simp [isOver])
  | some time =>
      have hover (k : Int) : isOver (some time) k 1 = false ↔ 0 < k ∧ time < 1000 * k := by
        simp [isOver]
      rw [hover] at h ⊢
      omega

theorem exceeds_int (elapsed : Option Nat) {n : Int} (hn : isHuge n = false) :
    exceeds elapsed (.int n) = .ok (isOver elapsed n 1) := by
  rw [exceeds, hn]
  rfl

theorem run_eq_ok :
    run system t current l limit captured = .ok reply ↔
      ∃ ending, launch system t current l = .ok ending ∧
        (exceeds ending.elapsed limit = .ok true ∧ timedOut limit l.request = .ok reply ∨
          exceeds ending.elapsed limit = .ok false ∧ ending.reply captured = reply) := by
  simp only [run, bind_eq_ok]
  refine exists_congr fun ending => and_congr_right fun _ => ?_
  cases exceeds ending.elapsed limit with
  | error e => simp
  | ok isLate => cases isLate <;> simp [pure, Except.pure]

/-- A command that has ended in time is reported as it has ended under every longer limit that a
clock can count. -/
theorem run_of_le (hlaunch : launch system t current l = .ok ending) {m n : Int} (hmn : m ≤ n)
    (hn : isHuge n = false) (hin : exceeds ending.elapsed (.int m) = .ok false) :
    run system t current l (.int n) captured = .ok (ending.reply captured) := by
  have hover : isOver ending.elapsed m 1 = false := by
    rw [exceeds] at hin
    split at hin
    · exact absurd hin (by simp)
    · exact Except.ok.inj hin
  refine run_eq_ok.mpr ⟨ending, hlaunch, .inr ⟨?_, rfl⟩⟩
  rw [exceeds_int _ hn, isOver_mono hmn hover]

/-- A command that takes too long fails under every limit in whole seconds that a clock can count
and that can be told. -/
theorem run_late (hlaunch : launch system t current l = .ok ending) {n : Int}
    (hlate : isOver ending.elapsed n 1 = true) (hn : isHuge n = false)
    (hshort : Number.isShort n = true) :
    ∃ reply, run system t current l (.int n) captured = .ok reply ∧ reply.code = -1 := by
  have hwrite : (Value.int n).write = .ok (toString n) := by
    rw [Value.write, Value.isWritable, hshort]
    rfl
  refine ⟨_, run_eq_ok.mpr ⟨ending, hlaunch, .inl ⟨?_, by rw [timedOut, hwrite]; rfl⟩⟩, rfl⟩
  rw [exceeds_int _ hn, hlate]

/-- So does one that does not end at all. -/
theorem run_endless (hlaunch : launch system t current l = .ok ending)
    (hendless : ending.elapsed = none) {n : Int} (hn : isHuge n = false)
    (hshort : Number.isShort n = true) :
    ∃ reply, run system t current l (.int n) captured = .ok reply ∧ reply.code = -1 := by
  refine run_late hlaunch ?_ hn hshort
  rw [isOver, hendless]
  exact Bool.or_true _

/-- What a command has written is reported without blanks around it, and not at all if it is not
captured. The only other report is that it has taken too long. -/
theorem run_streams (h : run system t current l limit captured = .ok reply) :
    timedOut limit l.request = .ok reply ∨
      Text.strip reply.output = reply.output ∧ Text.strip reply.errors = reply.errors ∧
        (captured = false → reply.output = "" ∧ reply.errors = "") := by
  obtain ⟨ending, -, ⟨-, hreply⟩ | ⟨-, rfl⟩⟩ := run_eq_ok.mp h
  · exact .inl hreply
  · right
    cases captured with
    | true => exact ⟨Text.strip_strip _, Text.strip_strip _, fun h => absurd h (by simp)⟩
    | false => exact ⟨rfl, rfl, fun _ => ⟨rfl, rfl⟩⟩

end Subprocess

end Formwork
