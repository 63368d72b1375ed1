/-
# QueryBind.Proofs.Record.Instance — instances that agree with their field table

A trail of indices leads through a field table to a shape (`Shape.at?`) and through an instance to
a cell (`Cell.at?`). `Cell.Fits` says that the two agree at every trail: a scalar field holds its
own type, an optional record may be unset, every other record is there with one cell a field.

Blank instances fit when records held in place or in a box are well founded (`Schema.Grounded`):
`blankCells` descends one level a type, and no type comes up twice on the way down.
-/
import Mathlib.Data.List.Perm.Subperm
import Mathlib.Logic.Relation
import Mathlib.Order.WellFounded
import QueryBind.Record

namespace QueryBind

set_option autoImplicit false

/-! ## Trails -/

/-- The shape that a trail leads to. -/
def Shape.at? (s : Schema) : Shape → List Nat → Option Shape
  | shape, [] => some shape
  | .scalar _, _ :: _ => none
  | .nested type _, i :: rest =>
      match (s.fields type)[i]? with
      | some field => Shape.at? s field.shape rest
      | none => none

theorem Shape.at?_append (s : Schema) (shape : Shape) (way rest : List Nat) :
    shape.at? s (way ++ rest) = (shape.at? s way).bind (·.at? s rest) := by
  induction way generalizing shape with
  | nil => rfl
  | cons i way ih =>
      cases shape with
      | scalar t => rfl
      | nested type hold =>
          simp only [List.cons_append, Shape.at?]
          cases (s.fields type)[i]? with
          | none => rfl
          | some field => exact ih field.shape

namespace Schema

/-- The shape of the field of a type that a trail leads to. -/
def shapeAt? (s : Schema) (type : Nat) (trail : List Nat) : Option Shape :=
  (Shape.nested type .inline).at? s trail

/-- The trail leads to a scalar field. -/
def IsScalar (s : Schema) (type : Nat) (trail : List Nat) : Prop :=
  ∃ t, s.shapeAt? type trail = some (.scalar t)

theorem shapeAt?_cons (s : Schema) (type i : Nat) (rest : List Nat) :
    s.shapeAt? type (i :: rest) = (s.fields type)[i]?.bind fun field => field.shape.at? s rest := by
  simp only [shapeAt?, Shape.at?]
  cases (s.fields type)[i]? <;> rfl

theorem shapeAt?_below {s : Schema} {type i inner : Nat} {name : String} {hold : Hold}
    {rest : List Nat} (found : (s.fields type)[i]? = some ⟨name, .nested inner hold⟩)
    (further : rest ≠ []) : s.shapeAt? type (i :: rest) = s.shapeAt? inner rest := by
  obtain ⟨j, rest, rfl⟩ := List.exists_cons_of_ne_nil further
  rw [shapeAt?_cons, found]
  rfl

theorem shapeAt?_append {s : Schema} {type : Nat} {way : List Nat} {shape : Shape}
    (leads : s.shapeAt? type way = some shape) (rest : List Nat) :
    s.shapeAt? type (way ++ rest) = shape.at? s rest := by
  rw [shapeAt?, Shape.at?_append, ← shapeAt?, leads, Option.bind_some]

/-- A trail to a scalar field ends there or passes a nested record. -/
@[elab_as_elim]
theorem scalar_induction {s : Schema} {t : FieldType}
    {motive : (type : Nat) → (trail : List Nat) → s.shapeAt? type trail = some (.scalar t) → Prop}
    (last : ∀ type i name leads, (s.fields type)[i]? = some ⟨name, .scalar t⟩ →
      motive type [i] leads)
    (below : ∀ type i name inner hold rest leads further,
      (s.fields type)[i]? = some ⟨name, .nested inner hold⟩ → rest ≠ [] →
      motive inner rest further → motive type (i :: rest) leads)
    (type : Nat) (trail : List Nat) (leads : s.shapeAt? type trail = some (.scalar t)) :
    motive type trail leads := by
  induction trail generalizing type with
  | nil => simp [shapeAt?, Shape.at?] at leads
  | cons i rest ih =>
      have onward := leads
      rw [shapeAt?_cons] at onward
      obtain ⟨⟨name, shape⟩, found, onward⟩ := Option.bind_eq_some_iff.mp onward
      cases rest with
      | nil =>
          obtain rfl : shape = .scalar t := by simpa [Shape.at?] using onward
          exact last type i name leads found
      | cons j rest =>
          cases shape with
          | scalar _ => simp [Shape.at?] at onward
          | nested inner hold =>
              exact below type i name inner hold (j :: rest) leads onward found (by simp)
                (ih inner onward)

theorem trail_ne_nil {s : Schema} {type : Nat} {trail : List Nat} (scalar : s.IsScalar type trail) :
    trail ≠ [] := by
  rintro rfl
  obtain ⟨t, leads⟩ := scalar
  simp [shapeAt?, Shape.at?] at leads

/-- Every index of a trail is the position of a field in a table that is passed. -/
theorem lt_of_mem_trail {s : Schema} {type limit : Nat} (few : ∀ way inner hold,
      s.shapeAt? type way = some (.nested inner hold) → (s.fields inner).length ≤ limit)
    {trail : List Nat} (scalar : s.IsScalar type trail) : ∀ i ∈ trail, i < limit := by
  intro i member
  obtain ⟨t, leads⟩ := scalar
  obtain ⟨way, rest, rfl⟩ := List.append_of_mem member
  rw [shapeAt?, Shape.at?_append] at leads
  obtain ⟨shape, here, onward⟩ := Option.bind_eq_some_iff.mp leads
  cases shape with
  | scalar t' => simp [Shape.at?] at onward
  | nested inner hold =>
      simp only [Shape.at?] at onward
      split at onward
      · next field found =>
          have inside := (List.getElem?_eq_some_iff.mp found).1
          exact Nat.lt_of_lt_of_le inside (few way inner hold here)
      · cases onward

theorem length_fields_le {s : Schema} {limit : Nat} (few : ∀ table ∈ s, table.fields.length ≤ limit)
    (type : Nat) : (s.fields type).length ≤ limit := by
  cases listed : s[type]? with
  | none => simp [fields, listed]
  | some table => simpa [fields, listed] using few table (List.mem_of_getElem? listed)

end Schema

namespace Cell

/-- The cell that a trail leads to; nothing behind a record that is not there. -/
def at? : Cell → List Nat → Option Cell
  | cell, [] => some cell
  | .record cells, i :: rest =>
      match cells[i]? with
      | some cell => cell.at? rest
      | none => none
  | _, _ :: _ => none

/-- A record is there at the end of the trail: no optional record on the way is unset, and neither
is the one at its end. -/
def Present (cell : Cell) (trail : List Nat) : Prop :=
  ∃ cells, cell.at? trail = some (.record cells)

/-- An optional record on the way of a trail is unset. -/
def Interrupts (cell : Cell) (trail : List Nat) : Prop :=
  ∃ way, way <+: trail ∧ cell.at? way = some .unset

/-- The cells of a nested record, those of a blank one if it is unset. -/
def opened (s : Schema) (type : Nat) (cell : Cell) : List Cell := cell.cells?.getD (s.blank type)

/-- A cell that agrees with its shape, at every depth. -/
inductive Fits (s : Schema) : Shape → Cell → Prop where
  | scalar (held : Held) : Fits s (.scalar held.type) (.scalar held)
  | unset (type : Nat) : Fits s (.nested type .optional) .unset
  | record {type : Nat} {hold : Hold} {cells : List Cell}
      (width : cells.length = (s.fields type).length)
      (each : ∀ (i : Nat) (field : Field) (cell : Cell), (s.fields type)[i]? = some field →
        cells[i]? = some cell → Fits s field.shape cell) :
      Fits s (.nested type hold) (.record cells)

end Cell

/-- The cells agree with the field table of the record's type, at every depth. -/
def Record.IsInstance (s : Schema) (r : Record) : Prop :=
  (Cell.record r.cells).Fits s (.nested r.type .inline)

namespace Cell

variable {s : Schema} {type : Nat} {hold : Hold}

@[simp] theorem at?_unset_cons (i : Nat) (rest : List Nat) :
    Cell.unset.at? (i :: rest) = none := rfl

@[simp] theorem opened_unset : Cell.unset.opened s type = s.blank type := rfl

namespace Fits

/-- How a record is held does not matter while it is there. -/
theorem rehold {cells : List Cell} (fits : (Cell.record cells).Fits s (.nested type hold))
    (other : Hold) : (Cell.record cells).Fits s (.nested type other) := by
  cases fits with
  | record width each => exact .record width each

theorem cell {cells : List Cell} (fits : (Cell.record cells).Fits s (.nested type hold))
    {i : Nat} {field : Field} (found : (s.fields type)[i]? = some field) :
    ∃ cell, cells[i]? = some cell ∧ cell.Fits s field.shape := by
  cases fits with
  | record width each =>
      have inside : i < cells.length := width ▸ (List.getElem?_eq_some_iff.mp found).1
      have present := List.getElem?_eq_getElem inside
      exact ⟨cells[i], present, each i field _ found present⟩

/-- A cell with one field replaced by a fitting one. -/
theorem set {cells : List Cell} (fits : (Cell.record cells).Fits s (.nested type hold))
    {i : Nat} {field : Field} (found : (s.fields type)[i]? = some field)
    {cell : Cell} (fit : cell.Fits s field.shape) (other : Hold) :
    (Cell.record (cells.set i cell)).Fits s (.nested type other) := by
  cases fits with
  | record width each =>
      refine .record (by simpa using width) fun k field' cell' found' member => ?_
      rw [List.getElem?_set] at member
      split at member
      · next same =>
          subst same
          split at member
          · cases member
            cases found.symm.trans found'
            exact fit
          · cases member
      · exact each k field' cell' found' member

end Fits

end Cell

/-! ## Blank instances -/

/-- The type of the record that is held in place or in a box. -/
def Shape.embedded? : Shape → Option Nat
  | .scalar _ => none
  | .nested _ .optional => none
  | .nested type _ => some type

namespace Schema

/-- A field of the outer type holds the inner one in place or in a box. -/
def PartOf (s : Schema) (inner outer : Nat) : Prop :=
  ∃ field ∈ s.fields outer, field.shape.embedded? = some inner

/-- No type is part of itself, directly or through others: every type has a blank instance. -/
def Grounded (s : Schema) : Prop := WellFounded s.PartOf

theorem fields_eq_nil {s : Schema} {type : Nat} (outside : s.length ≤ type) :
    s.fields type = [] := by
  simp [fields, List.getElem?_eq_none outside]

theorem lt_length_of_mem {s : Schema} {type : Nat} {field : Field}
    (member : field ∈ s.fields type) : type < s.length := by
  by_contra outside
  simp [fields_eq_nil (Nat.le_of_not_lt outside)] at member

/-- A rank that falls from every type to the types that are part of it. -/
theorem Grounded.of_rank {s : Schema} (rank : Nat → Nat)
    (falls : ∀ outer < s.length, ∀ field ∈ s.fields outer, ∀ inner ∈ field.shape.embedded?,
      rank inner < rank outer) : s.Grounded := by
  refine Subrelation.wf (fun {inner outer} part => ?_) (measure rank).wf
  obtain ⟨field, listed, embedded⟩ := part
  exact falls outer (lt_length_of_mem listed) field listed inner embedded

variable {s : Schema}

/-- The types on the way down are different types of the schema, so `depth` levels are left for
the types that are not among them. -/
theorem Grounded.fits_blankCells (grounded : s.Grounded) (depth : Nat) (above : List Nat)
    (distinct : above.Nodup) (inside : ∀ outer ∈ above, outer < s.length) (type : Nat)
    (below : ∀ outer ∈ above, Relation.TransGen s.PartOf type outer)
    (room : s.length ≤ depth + above.length) (hold : Hold) :
    (Cell.record (s.blankCells depth type)).Fits s (.nested type hold) := by
  induction depth generalizing above type hold with
  | zero =>
      -- all types are above this one, so it is not in the schema
      have outside : s.length ≤ type := by
        by_contra within
        have fresh : type ∉ above := fun member =>
          grounded.transGen.irrefl.irrefl type (below type member)
        have distinct' : (type :: above).Nodup := List.nodup_cons.mpr ⟨fresh, distinct⟩
        have all : type :: above ⊆ List.range s.length := by
          intro other member
          rcases List.mem_cons.mp member with rfl | member
          · simpa using within
          · simpa using inside other member
        have few := (List.subperm_of_subset distinct' all).length_le
        simp only [List.length_cons, List.length_range] at few
        omega
      have empty := fields_eq_nil outside
      exact .record (by simp [blankCells, empty]) (by simp [empty])
  | succ depth ih =>
      refine .record (by simp [blankCells]) fun i field cell found member => ?_
      obtain ⟨name, shape⟩ := field
      simp only [blankCells, List.getElem?_map, found, Option.map_some, Option.some.injEq] at member
      subst member
      have listed : (⟨name, shape⟩ : Field) ∈ s.fields type := List.mem_of_getElem? found
      have descend (inner : Nat) (hold : Hold) (direct : s.PartOf inner type) :
          (Cell.record (s.blankCells depth inner)).Fits s (.nested inner hold) := by
        apply ih (type :: above)
        · refine List.nodup_cons.mpr ⟨fun member => ?_, distinct⟩
          exact grounded.transGen.irrefl.irrefl type (below type member)
        · simpa using ⟨lt_length_of_mem listed, inside⟩
        · intro outer member
          rcases List.mem_cons.mp member with rfl | member
          · exact .single direct
          · exact .head direct (below outer member)
        · simp only [List.length_cons]; omega
      cases shape with
      | scalar t => exact .scalar (Held.blank t)
      | nested inner hold =>
          cases hold with
          | optional => exact .unset inner
          | inline => exact descend inner .inline ⟨_, listed, rfl⟩
          | boxed => exact descend inner .boxed ⟨_, listed, rfl⟩

/-- A blank instance agrees with its field table. -/
theorem Grounded.fits_blank (grounded : s.Grounded) (type : Nat) (hold : Hold) :
    (Cell.record (s.blank type)).Fits s (.nested type hold) :=
  grounded.fits_blankCells s.length [] .nil (by simp) type (by simp) (by simp) hold

/-- A blank instance has no optional record. -/
theorem not_present_blankCells (depth type : Nat) (hold : Hold) (way : List Nat) (inner : Nat)
    (some_index : way ≠ [])
    (optional : (Shape.nested type hold).at? s way = some (.nested inner .optional)) :
    ¬ (Cell.record (s.blankCells depth type)).Present way := by
  induction way generalizing depth type hold with
  | nil => contradiction
  | cons i rest ih =>
      rintro ⟨cells, there⟩
      cases depth with
      | zero => simp [blankCells, Cell.at?] at there
      | succ depth =>
          simp only [Shape.at?] at optional
          split at optional
          · next field found =>
              obtain ⟨name, shape⟩ := field
              simp only [Cell.at?, blankCells, List.getElem?_map, found, Option.map_some] at there
              cases shape with
              | scalar t => cases rest <;> simp [Shape.at?] at optional
              | nested type' hold' =>
                  cases rest with
                  | nil =>
                      simp only [Shape.at?, Option.some.injEq, Shape.nested.injEq] at optional
                      simp [optional.2, Cell.at?] at there
                  | cons j rest =>
                      cases hold' with
                      | optional => simp at there
                      | inline => exact ih depth type' .inline (by simp) optional ⟨cells, there⟩
                      | boxed => exact ih depth type' .boxed (by simp) optional ⟨cells, there⟩
          · cases optional

end Schema

theorem Cell.Fits.opened {s : Schema} {type : Nat} {hold : Hold} {cell : Cell}
    (fits : cell.Fits s (.nested type hold)) (grounded : s.Grounded) (other : Hold) :
    (Cell.record (cell.opened s type)).Fits s (.nested type other) := by
  cases fits with
  | unset type => exact grounded.fits_blank type other
  | record width each => exact .record width each

theorem Record.isInstance_blank {s : Schema} (grounded : s.Grounded) (type : Nat) :
    (Record.blank s type).IsInstance s :=
  grounded.fits_blank type .inline

/-! ## Staff -/

/-- Employees with a badge in place, a boxed home that has an employee as its tenant, and a boss. -/
def Schema.staff : Schema :=
  [⟨"Employee", [⟨"id", .scalar (.required .int64)⟩, ⟨"", .nested 1 .inline⟩,
      ⟨"home", .nested 2 .boxed⟩, ⟨"boss", .nested 0 .optional⟩]⟩,
    ⟨"Badge", [⟨"code", .scalar (.required .text)⟩]⟩,
    ⟨"Home", [⟨"city", .scalar (.optional .text)⟩, ⟨"tenant", .nested 0 .optional⟩]⟩]

theorem Schema.staff_grounded : Schema.staff.Grounded :=
  .of_rank (fun type => if type = 0 then 1 else 0) (by decide)

end QueryBind
