/-
# QueryBind.Proofs.Text.Parentheses — balanced texts and what they enclose

`Text.depthAfter` counts the parentheses that are open after a text; a text is `Balanced` when it
closes every parenthesis it opens and no other. A unit is a balanced text between parentheses of
its own (`Text.IsUnit`). `Text.enclosures` cuts a text at depth zero, and gives units back that were
written one after the other with other text between them (`enclosures_unit`).
-/
import Mathlib.Data.List.DropRight
import QueryBind.Text.Blank

namespace QueryBind.Text

set_option autoImplicit false

/-- How many parentheses are open after a character when `depth` are open before it; none when it
closes one that is not open. -/
def depthStep (depth : Nat) (c : Char) : Option Nat :=
  if c = '(' then some (depth + 1)
  else if c = ')' then (if depth = 0 then none else some (depth - 1))
  else some depth

/-- How many parentheses are open after a text when `depth` are open before it. -/
def depthAfter (depth : Nat) (s : List Char) : Option Nat := s.foldlM depthStep depth

/-- Every parenthesis that is opened is closed, and no other. -/
def Balanced (s : List Char) : Prop := depthAfter 0 s = some 0

instance (s : List Char) : Decidable (Balanced s) := inferInstanceAs (Decidable (_ = _))

/-- A balanced text between parentheses that enclose the whole. -/
def IsUnit (s : List Char) : Prop := ∃ inner, s = '(' :: (inner ++ [')']) ∧ Balanced inner

/-- The units of a text at depth zero, each after the text that stands before it; the last entry
has the text after the last unit. -/
def enclosures : (depth : Nat) → List Char → List (List Char × List Char)
  | _, [] => [([], [])]
  | 0, c :: rest =>
      if c = '(' then (enclosures 1 rest).modifyHead fun piece => (piece.1, c :: piece.2)
      else (enclosures 0 rest).modifyHead fun piece => (c :: piece.1, piece.2)
  | depth + 1, c :: rest =>
      if c = ')' ∧ depth = 0 then ([], [c]) :: enclosures 0 rest
      else
        (enclosures ((depthStep (depth + 1) c).getD 0) rest).modifyHead fun piece =>
          (piece.1, c :: piece.2)

/-! ## Depth -/

@[simp] theorem depthAfter_nil (depth : Nat) : depthAfter depth [] = some depth := rfl

theorem depthAfter_cons (depth : Nat) (c : Char) (rest : List Char) :
    depthAfter depth (c :: rest) = (depthStep depth c).bind (depthAfter · rest) :=
  List.foldlM_cons

theorem depthAfter_append (depth : Nat) (a b : List Char) :
    depthAfter depth (a ++ b) = (depthAfter depth a).bind (depthAfter · b) :=
  List.foldlM_append

@[simp] theorem depthAfter_open (depth : Nat) (rest : List Char) :
    depthAfter depth ('(' :: rest) = depthAfter (depth + 1) rest := rfl

@[simp] theorem depthAfter_close (depth : Nat) (rest : List Char) :
    depthAfter (depth + 1) (')' :: rest) = depthAfter depth rest := rfl

theorem depthAfter_of_free {s : List Char} (opens : '(' ∉ s) (closes : ')' ∉ s) (depth : Nat) :
    depthAfter depth s = some depth := by
  induction s with
  | nil => rfl
  | cons c rest ih =>
      obtain ⟨notOpen, opens⟩ := List.ne_and_not_mem_of_not_mem_cons opens
      obtain ⟨notClose, closes⟩ := List.ne_and_not_mem_of_not_mem_cons closes
      simp [depthAfter_cons, depthStep, notOpen.symm, notClose.symm, ih opens closes]

/-- A character that is no parenthesis does not count. -/
theorem depthAfter_other {c : Char} (opens : c ≠ '(') (closes : c ≠ ')') (depth : Nat)
    (rest : List Char) : depthAfter depth (c :: rest) = depthAfter depth rest := by
  simp [depthAfter_cons, depthStep, opens, closes]

theorem depthStep_add {depth next : Nat} {c : Char} (step : depthStep depth c = some next)
    (more : Nat) : depthStep (depth + more) c = some (next + more) := by
  by_cases opens : c = '('
  · subst opens
    obtain rfl : depth + 1 = next := Option.some.inj step
    rw [Nat.add_right_comm]
    rfl
  · by_cases closes : c = ')'
    · subst closes
      cases depth with
      | zero => cases step
      | succ depth =>
          obtain rfl : depth = next := Option.some.inj step
          rw [Nat.add_right_comm]
          rfl
    · simp only [depthStep, opens, closes, if_false, Option.some.injEq] at step ⊢
      omega

/-- More parentheses that are open before a text stay open after it. -/
theorem depthAfter_add {depth after : Nat} {s : List Char} (ends : depthAfter depth s = some after)
    (more : Nat) : depthAfter (depth + more) s = some (after + more) := by
  induction s generalizing depth with
  | nil =>
      obtain rfl : depth = after := by simpa using ends
      rfl
  | cons c rest ih =>
      rw [depthAfter_cons] at ends ⊢
      obtain ⟨next, step, ends⟩ := Option.bind_eq_some_iff.mp ends
      rw [depthStep_add step more, Option.bind_some, ih ends]

/-! ## Units -/

theorem isUnit_enclosed {inner : List Char} (balanced : Balanced inner) :
    IsUnit ('(' :: (inner ++ [')'])) := ⟨inner, rfl, balanced⟩

/-- Text before the first unit. -/
theorem enclosures_outside {before : List Char} (opens : '(' ∉ before) (rest : List Char) :
    enclosures 0 (before ++ rest) =
      (enclosures 0 rest).modifyHead fun piece => (before ++ piece.1, piece.2) := by
  induction before with
  | nil =>
      rw [List.nil_append]
      cases enclosures 0 rest <;> rfl
  | cons c before ih =>
      obtain ⟨notOpen, opens⟩ := List.ne_and_not_mem_of_not_mem_cons opens
      rw [List.cons_append, enclosures, if_neg notOpen.symm, ih opens, List.modifyHead_modifyHead]
      rfl

/-- The rest of a unit, `depth` more of whose parentheses than its own are open. -/
theorem enclosures_inside {depth : Nat} {inner : List Char} (ends : depthAfter depth inner = some 0)
    (rest : List Char) :
    enclosures (depth + 1) (inner ++ ')' :: rest) = ([], inner ++ [')']) :: enclosures 0 rest := by
  induction inner generalizing depth with
  | nil =>
      obtain rfl : depth = 0 := by simpa using ends
      rfl
  | cons c inner ih =>
      rw [depthAfter_cons] at ends
      obtain ⟨next, step, ends⟩ := Option.bind_eq_some_iff.mp ends
      have inside : ¬ (c = ')' ∧ depth = 0) := by
        rintro ⟨rfl, rfl⟩
        cases step
      rw [List.cons_append, enclosures, if_neg inside, depthStep_add step 1, Option.getD_some,
        ih ends]
      rfl

/-- A unit is cut off with the text before it. -/
theorem enclosures_unit {before unit : List Char} (opens : '(' ∉ before) (enclosed : IsUnit unit)
    (rest : List Char) :
    enclosures 0 (before ++ unit ++ rest) = (before, unit) :: enclosures 0 rest := by
  obtain ⟨inner, rfl, balanced⟩ := enclosed
  rw [List.append_assoc, enclosures_outside opens]
  simp only [List.cons_append, List.append_assoc, List.nil_append, enclosures, if_true,
    enclosures_inside balanced]
  simp

/-! ## Trimming -/

theorem depthAfter_blanks {s : List Char} (blanks : ∀ c ∈ s, isBlank c = true) (depth : Nat) :
    depthAfter depth s = some depth := by
  refine depthAfter_of_free (fun member => ?_) (fun member => ?_) depth
  · exact absurd (blanks _ member) (by decide)
  · exact absurd (blanks _ member) (by decide)

@[simp] theorem depthAfter_trim (depth : Nat) (s : List Char) :
    depthAfter depth (trim s) = depthAfter depth s := by
  have start (s : List Char) : depthAfter depth (trimStart s) = depthAfter depth s := by
    have cut : s = s.takeWhile isBlank ++ trimStart s := List.takeWhile_append_dropWhile.symm
    conv_rhs => rw [cut, depthAfter_append]
    rw [depthAfter_blanks fun c member => List.mem_takeWhile_imp member, Option.bind_some]
  have ends (s : List Char) : depthAfter depth (trimEnd s) = depthAfter depth s := by
    have cut : s = trimEnd s ++ s.rtakeWhile isBlank :=
      List.rdropWhile_append_rtakeWhile.symm
    conv_rhs => rw [cut, depthAfter_append]
    cases depthAfter depth (trimEnd s) with
    | none => rfl
    | some opened => exact (depthAfter_blanks (fun c member => List.mem_rtakeWhile_imp member) _).symm
  rw [trim, ends, start]

end QueryBind.Text
