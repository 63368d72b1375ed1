/-
# QueryBind.Proofs.Record.Layering — rows stored one over the other

Stores at different trails commute (`stored_comm`), and of two stores at one trail the second
counts (`stored_stored_self`). So a row that is stored over another one by the same mapping leaves
nothing of it (`finished_scan_scan`): the record is the one that the row alone gives. Whether a row
is refused, and why, does not depend on the record at all.

The main statement, `bindOne_agrees_with_bindRows`, compares the one record on which all rows are
layered with the new records that are made for each of them.
-/
import QueryBind.Proofs.Record.Writing

namespace QueryBind

set_option autoImplicit false

namespace Record

variable {s : Schema}

/-! ## Two stores -/

theorem fits_stored (held : Held) (grounded : s.Grounded) {type : Nat} {trail : List Nat}
    (leads : s.shapeAt? type trail = some (.scalar held.type)) {cells : List Cell}
    (fits : (Cell.record cells).Fits s (.nested type .inline)) :
    (Cell.record (stored s ⟨type, cells⟩ trail held).cells).Fits s (.nested type .inline) :=
  fits_putCell_allocateCells grounded held leads fits

theorem stored_below (held : Held) {type i inner : Nat} {name : String} {hold : Hold}
    {cells : List Cell} {cell : Cell} {rest : List Nat}
    (found : (s.fields type)[i]? = some ⟨name, .nested inner hold⟩) (there : cells[i]? = some cell)
    (fit : cell.Fits s (.nested inner hold)) (further : rest ≠ []) :
    stored s ⟨type, cells⟩ (i :: rest) held =
      ⟨type, cells.set i (.record (stored s ⟨inner, cell.opened s inner⟩ rest held).cells)⟩ := by
  rw [stored, putCell_allocateCells_below held found there fit further]
  rfl

/-- A store replaces one cell of the record, by one that only the cell before it decides. -/
theorem exists_stored_cell {type i : Nat} {rest : List Nat} {held : Held}
    (leads : s.shapeAt? type (i :: rest) = some (.scalar held.type)) {cells : List Cell}
    (fits : (Cell.record cells).Fits s (.nested type .inline)) :
    ∃ new, ∀ other : List Cell, other[i]? = cells[i]? →
      stored s ⟨type, other⟩ (i :: rest) held = ⟨type, other.set i new⟩ := by
  have onward := leads
  rw [Schema.shapeAt?_cons] at onward
  obtain ⟨⟨name, shape⟩, found, onward⟩ := Option.bind_eq_some_iff.mp onward
  obtain ⟨cell, there, fit⟩ := fits.cell found
  cases rest with
  | nil => exact ⟨.scalar held, fun other _ => rfl⟩
  | cons j rest =>
      cases shape with
      | scalar t => simp [Shape.at?] at onward
      | nested inner hold =>
          exact ⟨_, fun other same => stored_below held found (same.trans there) fit (by simp)⟩

/-- A store into a record that an earlier store opened. -/
theorem stored_stored_below {first second : Held} (grounded : s.Grounded) {type i inner : Nat}
    {name : String} {hold : Hold} {cells : List Cell} {cell : Cell} {rest rest' : List Nat}
    (found : (s.fields type)[i]? = some ⟨name, .nested inner hold⟩) (there : cells[i]? = some cell)
    (fit : cell.Fits s (.nested inner hold))
    (leads : s.shapeAt? inner rest = some (.scalar first.type)) (further : rest ≠ [])
    (further' : rest' ≠ []) :
    stored s (stored s ⟨type, cells⟩ (i :: rest) first) (i :: rest') second =
      ⟨type, cells.set i (.record (stored s (stored s ⟨inner, cell.opened s inner⟩ rest first)
        rest' second).cells)⟩ := by
  have again := (fits_stored first grounded leads (fit.opened grounded .inline)).rehold hold
  rw [stored_below first found there fit further,
    stored_below second found (Cell.getElem?_set_of_some there _) again further', List.set_set]
  rfl

/-- Of two stores at one trail the second counts. -/
theorem stored_stored_self {type : Nat} {trail : List Nat} (first second : Held)
    (grounded : s.Grounded) (leads : s.shapeAt? type trail = some (.scalar first.type))
    {cells : List Cell} (fits : (Cell.record cells).Fits s (.nested type .inline)) :
    stored s (stored s ⟨type, cells⟩ trail first) trail second =
      stored s ⟨type, cells⟩ trail second := by
  induction type, trail, leads using Schema.scalar_induction generalizing cells with
  | last type i name leads found =>
      show Record.mk type ((cells.set i _).set i _) = ⟨type, cells.set i _⟩
      rw [List.set_set]
  | below type i name inner hold rest leads onward found further ih =>
      obtain ⟨cell, there, fit⟩ := fits.cell found
      rw [stored_stored_below grounded found there fit onward further further,
        stored_below second found there fit further, ih (fit.opened grounded .inline)]

/-- Stores at trails that part at their first index replace different cells. -/
theorem stored_comm_of_ne {held held' : Held} {type i k : Nat} {trail other : List Nat}
    (ne : i ≠ k) (leads : s.shapeAt? type (i :: trail) = some (.scalar held.type))
    (leads' : s.shapeAt? type (k :: other) = some (.scalar held'.type)) {cells : List Cell}
    (fits : (Cell.record cells).Fits s (.nested type .inline)) :
    stored s (stored s ⟨type, cells⟩ (i :: trail) held) (k :: other) held' =
      stored s (stored s ⟨type, cells⟩ (k :: other) held') (i :: trail) held := by
  obtain ⟨new, replaces⟩ := exists_stored_cell leads fits
  obtain ⟨new', replaces'⟩ := exists_stored_cell leads' fits
  rw [replaces cells rfl, replaces' cells rfl,
    replaces' (cells.set i new) (List.getElem?_set_ne ne),
    replaces (cells.set k new') (List.getElem?_set_ne ne.symm), List.set_comm new new' ne]

/-- Stores at different trails commute. -/
theorem stored_comm {type : Nat} {trail other : List Nat} (held held' : Held)
    (grounded : s.Grounded) (leads : s.shapeAt? type trail = some (.scalar held.type))
    (leads' : s.shapeAt? type other = some (.scalar held'.type)) (distinct : other ≠ trail)
    {cells : List Cell} (fits : (Cell.record cells).Fits s (.nested type .inline)) :
    stored s (stored s ⟨type, cells⟩ trail held) other held' =
      stored s (stored s ⟨type, cells⟩ other held') trail held := by
  cases other with
  | nil => simp [Schema.shapeAt?, Shape.at?] at leads'
  | cons k other =>
  induction type, trail, leads using Schema.scalar_induction generalizing cells k other with
  | last type i name leads found =>
      refine stored_comm_of_ne ?_ leads leads' fits
      rintro rfl
      rw [Schema.shapeAt?_cons, found] at leads'
      cases other <;> simp_all [Shape.at?]
  | below type i name inner hold rest leads onward found further ih =>
      by_cases same : i = k
      · subst same
        obtain ⟨cell, there, fit⟩ := fits.cell found
        cases other with
        | nil => simp [Schema.shapeAt?_cons, found, Shape.at?] at leads'
        | cons k other =>
            have further' : k :: other ≠ [] := List.cons_ne_nil k other
            rw [Schema.shapeAt?_below found further'] at leads'
            rw [stored_stored_below grounded found there fit onward further further',
              stored_stored_below grounded found there fit leads' further' further,
              ih (fit.opened grounded .inline) k other leads' (by simpa using distinct)]
      · exact stored_comm_of_ne same leads leads' fits

/-! ## One row over another -/

/-- The record, if everything was stored. -/
def finished : Record × Except Error Unit → Except Error Record
  | (r, .ok ()) => .ok r
  | (_, .error e) => .error e

theorem finished_eq_ok {x : Record × Except Error Unit} {r : Record} :
    finished x = .ok r ↔ x = (r, .ok ()) := by
  obtain ⟨after, outcome⟩ := x
  cases outcome <;> simp [finished]

theorem finished_eq_error {x : Record × Except Error Unit} {e : Error} :
    finished x = .error e ↔ x.2 = .error e := by
  obtain ⟨after, outcome⟩ := x
  cases outcome <;> simp [finished]

/-- A store that one of the columns stored after it replaces leaves nothing. -/
theorem finished_storeAll_stored (grounded : s.Grounded) {r : Record} (made : r.IsInstance s)
    {trail : List Nat} {held : Held} (leads : s.shapeAt? r.type trail = some (.scalar held.type))
    {entries : List (FieldPath × Value × String)}
    (scalar : ∀ entry ∈ entries, s.IsScalar r.type entry.1.indices)
    (replaced : ∃ entry ∈ entries, entry.1.indices = trail) :
    finished ((stored s r trail held).storeAll s entries) = finished (r.storeAll s entries) := by
  induction entries generalizing r with
  | nil => simp at replaced
  | cons entry entries ih =>
      obtain ⟨path, v, column⟩ := entry
      obtain ⟨t, leads'⟩ : s.IsScalar r.type path.indices := scalar _ List.mem_cons_self
      have made' : (stored s r trail held).IsInstance s := fits_stored held grounded leads made
      simp only [storeAll, store_eq grounded made leads', store_eq grounded made' (t := t) leads']
      cases converted : t.ofValue v with
      | error cause => rfl
      | ok content =>
          show finished ((stored s (stored s r trail held) path.indices ⟨t, content⟩).storeAll s
            entries) = finished ((stored s r path.indices ⟨t, content⟩).storeAll s entries)
          by_cases same : path.indices = trail
          · subst same
            rw [stored_stored_self held ⟨t, content⟩ grounded leads made]
          · rw [stored_comm held ⟨t, content⟩ grounded leads leads' same made]
            have later : ∃ entry ∈ entries, entry.1.indices = trail := by
              obtain ⟨entry, member, there⟩ := replaced
              rcases List.mem_cons.mp member with rfl | member
              · exact absurd there same
              · exact ⟨entry, member, there⟩
            exact ih (fits_stored ⟨t, content⟩ grounded leads' made) leads
              (fun entry member => scalar entry (List.mem_cons_of_mem _ member)) later

/-- Columns that are all replaced by the columns stored after them leave nothing. -/
theorem finished_storeAll_storeAll (grounded : s.Grounded) {r mid : Record} (made : r.IsInstance s)
    {first second : List (FieldPath × Value × String)}
    (scalar : ∀ entry ∈ first, s.IsScalar r.type entry.1.indices)
    (scalar' : ∀ entry ∈ second, s.IsScalar r.type entry.1.indices)
    (replaced : ∀ entry ∈ first, ∃ entry' ∈ second, entry'.1.indices = entry.1.indices)
    (ok : r.storeAll s first = (mid, .ok ())) :
    finished (mid.storeAll s second) = finished (r.storeAll s second) := by
  induction first generalizing r with
  | nil =>
      obtain rfl : r = mid := by simpa [storeAll] using ok
      rfl
  | cons entry first ih =>
      obtain ⟨path, v, column⟩ := entry
      simp only [storeAll] at ok
      split at ok
      · next after put =>
          obtain ⟨t, content, leads, -, rfl, made', same⟩ :=
            store_eq_ok grounded made (scalar _ List.mem_cons_self) put
          have onward := ih made'
            (fun entry member => same ▸ scalar entry (List.mem_cons_of_mem _ member))
            (fun entry member => same ▸ scalar' entry member)
            (fun entry member => replaced entry (List.mem_cons_of_mem _ member)) ok
          have absorbed :
              finished ((stored s r path.indices ⟨t, content⟩).storeAll s second) = _ :=
            finished_storeAll_stored grounded made leads scalar' (replaced _ List.mem_cons_self)
          exact onward.trans absorbed
      · simp at ok

section Mapping

variable {type : Nat} {mapping : List FieldPath} (grounded : s.Grounded)
  (scalar : ∀ path ∈ mapping, s.IsScalar type path.indices)

include grounded scalar

/-- A row that is stored over another one by the same mapping leaves nothing of it. -/
theorem finished_scan_scan {r mid : Record} (made : r.IsInstance s) (typed : r.type = type)
    {first second : Row} (wide : first.columns.length = mapping.length)
    (wide' : second.columns.length = mapping.length)
    (ok : r.scan s mapping first = (mid, .ok ())) :
    finished (mid.scan s mapping second) = finished (r.scan s mapping second) ∧
      mid.IsInstance s ∧ mid.type = type := by
  subst typed
  rw [scan] at ok
  split at ok
  · next width =>
      have aligned : first.IsAligned := wide.trans width
      obtain ⟨made', same, -⟩ := storeAll_retains grounded made (isScalar_entries scalar first) ok
      refine ⟨?_, made', same⟩
      simp only [scan]
      split
      · next width' =>
          have aligned' : second.IsAligned := wide'.trans width'
          refine finished_storeAll_storeAll grounded made (isScalar_entries scalar first)
            (isScalar_entries scalar second) (fun entry member => ?_) ok
          have listed := List.mem_map_of_mem (f := (·.1.indices)) member
          rw [trails_entries aligned width, ← trails_entries aligned' width'] at listed
          exact List.mem_map.mp listed
      · rfl
  · cases congrArg Prod.snd ok

/-- Rows that are stored one over the other give the record that the last of them gives, or the
error of the first one that is refused. -/
theorem finished_scanAll {r : Record} (made : r.IsInstance s) (typed : r.type = type)
    (fresh : ∀ row : Row, row.columns.length = mapping.length →
      finished (r.scan s mapping row) = ofRow s type mapping row)
    {rows : List Row} (wide : ∀ row ∈ rows, row.columns.length = mapping.length) :
    finished (r.scanAll s mapping rows) =
      (rows.mapM (ofRow s type mapping)).map (·.getLastD r) := by
  induction rows generalizing r with
  | nil => rfl
  | cons row rows ih =>
      obtain ⟨first, others⟩ := List.forall_mem_cons.mp wide
      have alone := fresh row first
      simp only [scanAll, List.mapM_cons]
      split
      · next mid ok =>
          rw [ok] at alone
          obtain ⟨-, made', typed'⟩ := finished_scan_scan grounded scalar made typed first first ok
          have fresh' : ∀ row : Row, row.columns.length = mapping.length →
              finished (mid.scan s mapping row) = ofRow s type mapping row := fun row wide =>
            (finished_scan_scan grounded scalar made typed first wide ok).1.trans (fresh row wide)
          rw [ih made' typed' fresh' others, ← alone]
          cases rows.mapM (ofRow s type mapping) with
          | error e => rfl
          | ok objects => exact congrArg Except.ok (List.getLastD_cons).symm
      · next mid e refused =>
          rw [refused] at alone
          rw [← alone]
          rfl

end Mapping

/-! ## Rows that share their columns -/

theorem type_scan (r : Record) (mapping : List FieldPath) (row : Row) :
    (r.scan s mapping row).1.type = r.type := by
  have stores (r : Record) (path : FieldPath) (v : Value) : (r.store s path v).1.type = r.type := by
    simp only [store]
    split
    · split <;> rfl
    · rfl
  have all (entries : List (FieldPath × Value × String)) (r : Record) :
      (r.storeAll s entries).1.type = r.type := by
    induction entries generalizing r with
    | nil => rfl
    | cons entry entries ih =>
        obtain ⟨path, v, column⟩ := entry
        have first := stores r path v
        simp only [storeAll]
        split
        · next after put => rw [put] at first; exact (ih after).trans first
        · next after e put => rw [put] at first; exact first
  unfold scan
  split
  · exact all _ r
  · rfl

/-- The record after rows were bound onto it in turn, each by the mapping of its own columns, up to
the first failure. -/
def layer (s : Schema) : Record → List Row → Record × Except Error Unit
  | r, [] => (r, .ok ())
  | r, row :: rest =>
      match r.bindRow s row with
      | (r, .ok ()) => layer s r rest
      | (r, .error e) => (r, .error e)

section Shared

variable {type : Nat} {columns : List String} {rows : List Row}
  (shared : ∀ row ∈ rows, row.columns = columns)

include shared

theorem layer_eq_scanAll {mapping : List FieldPath} (compiled : s.mapping type columns = .ok mapping)
    {r : Record} (typed : r.type = type) : r.layer s rows = r.scanAll s mapping rows := by
  induction rows generalizing r with
  | nil => rfl
  | cons row rows ih =>
      obtain ⟨first, others⟩ := List.forall_mem_cons.mp shared
      have kept := type_scan (s := s) r mapping row
      have bound : r.bindRow s row = r.scan s mapping row := by
        simp only [bindRow, typed, first, compiled]
      simp only [layer, scanAll, bound]
      rcases result : r.scan s mapping row with ⟨mid, e | ok⟩
      · rfl
      · rw [result] at kept
        exact ih others (kept.trans typed)

/-- Each row is bound onto a new record of its own. -/
theorem bindRows_eq_mapM :
    bindRows s type rows = rows.mapM fun row => finished ((blank s type).bindRow s row) := by
  cases rows with
  | nil => rfl
  | cons row rows =>
      have head : row.columns = columns := shared row List.mem_cons_self
      rw [bindRows, head]
      cases compiled : s.mapping type columns with
      | error e =>
          have refused : (blank s type).bindRow s row = (blank s type, .error (.binding e)) := by
            simp [bindRow, blank, head, compiled]
          rw [List.mapM_cons, refused]
          rfl
      | ok mapping =>
          refine List.mapM_congr fun row' member => ?_
          have bound : (blank s type).bindRow s row' = (blank s type).scan s mapping row' := by
            simp [bindRow, blank, shared row' member, compiled]
          rw [bound]
          rfl

theorem bindOne_of_error (some_row : rows ≠ []) {e : BindingError}
    (compiled : s.mapping type columns = .error e) :
    bindOne s type .lastRowWins rows = .error (.binding e) := by
  obtain ⟨first, rest, rfl⟩ := List.exists_cons_of_ne_nil some_row
  simp [bindOne, shared first List.mem_cons_self, compiled]

theorem bindOne_of_ok (some_row : rows ≠ []) {mapping : List FieldPath}
    (compiled : s.mapping type columns = .ok mapping) :
    bindOne s type .lastRowWins rows = finished ((blank s type).scanAll s mapping rows) := by
  obtain ⟨first, rest, rfl⟩ := List.exists_cons_of_ne_nil some_row
  simp only [bindOne, shared first List.mem_cons_self, compiled]
  rfl

end Shared

/-- **Singular and plural binding agree.** For rows that share their columns, the one record on
which all rows are layered is the last of the new records that are made for each row, and there is
none of it exactly when there are none of them, with the same error: that of the first row that
cannot be bound. A strict singular binding takes one row, and refuses more of them unseen. -/
theorem bindOne_agrees_with_bindRows (grounded : s.Grounded) (type : Nat) {columns : List String}
    {rows : List Row} (some_row : rows ≠ []) (shared : ∀ row ∈ rows, row.columns = columns) :
    (bindOne s type .lastRowWins rows).map some = (bindRows s type rows).map List.getLast? ∧
      bindOne s type .lastRowWins rows = finished ((blank s type).layer s rows) ∧
      (∀ objects, bindRows s type rows = .ok objects ↔
        List.Forall₂ (fun row object => (blank s type).bindRow s row = (object, .ok ()))
          rows objects) ∧
      (∀ error, bindRows s type rows = .error error ↔
        ∃ earlier row later, rows = earlier ++ row :: later ∧
          (∀ other ∈ earlier, ∃ object, (blank s type).bindRow s other = (object, .ok ())) ∧
          ((blank s type).bindRow s row).2 = .error error) ∧
      bindOne s type .strict rows =
        if rows.length = 1 then bindOne s type .lastRowWins rows
        else .error (.tooManyRows 1 rows.length) := by
  obtain ⟨first, rest, rfl⟩ := List.exists_cons_of_ne_nil some_row
  have head : first.columns = columns := shared first List.mem_cons_self
  have plural : bindRows s type (first :: rest) = _ := bindRows_eq_mapM shared
  refine ⟨?_, ?_, fun objects => ?_, fun error => ?_, ?_⟩
  · rw [bindRows, head]
    cases compiled : s.mapping type columns with
    | error e =>
        rw [bindOne_of_error shared some_row compiled]
        rfl
    | ok mapping =>
        have scalar := Schema.isScalar_of_mapping compiled
        have wide : ∀ row ∈ first :: rest, row.columns.length = mapping.length := fun row member =>
          (shared row member).symm ▸ (Schema.mapping_eq_ok compiled).length_eq
        have layered := finished_scanAll grounded scalar (isInstance_blank grounded type) rfl
          (fun _ _ => rfl) wide
        rw [bindOne_of_ok shared some_row compiled, layered]
        simp only
        cases made : (first :: rest).mapM (ofRow s type mapping) with
        | error e => rfl
        | ok objects =>
            have count := (List.mapM_eq_ok_iff.mp made).length_eq
            obtain ⟨object, objects, rfl⟩ : ∃ object others, objects = object :: others :=
              List.exists_cons_of_length_eq_add_one count.symm
            exact congrArg Except.ok (by simp [List.getLastD_eq_getLast?, List.getLast?_cons])
  · cases compiled : s.mapping type columns with
    | error e =>
        rw [bindOne_of_error shared some_row compiled]
        simp [layer, bindRow, blank, head, compiled, finished]
    | ok mapping =>
        rw [bindOne_of_ok shared some_row compiled, layer_eq_scanAll shared compiled rfl]
  · rw [plural, List.mapM_eq_ok_iff]
    simp only [finished_eq_ok]
  · rw [plural, List.mapM_eq_error_iff]
    simp only [finished_eq_ok, finished_eq_error]
  · cases rest with
    | nil => rfl
    | cons second rest => simp [bindOne]

/-- Two rows with a repeated column, the first of which allocates a boss's boss. -/
theorem staff_layers :
    let columns := ["boss.id", "boss.boss.home.city", "boss.id"]
    let rows : List Row := [⟨columns, [.int 1, .text "Oslo", .int 2]⟩,
      ⟨columns, [.int 3, .null, .int 4]⟩]
    Schema.staff.Grounded ∧ rows ≠ [] ∧ (∀ row ∈ rows, row.columns = columns) ∧
      ∃ objects, bindRows .staff 0 rows = .ok objects ∧
        List.Forall₂ (fun row object => (blank .staff 0).bindRow .staff row = (object, .ok ()))
          rows objects ∧
        (bindOne .staff 0 .lastRowWins rows).map some = .ok objects.getLast? ∧
        bindOne .staff 0 .strict rows = .error (.tooManyRows 1 2) := by
  intro columns rows
  have shared : ∀ row ∈ rows, row.columns = columns := by simp [rows]
  have some_row : rows ≠ [] := List.cons_ne_nil _ _
  obtain ⟨last, -, each, -, strict⟩ :=
    bindOne_agrees_with_bindRows Schema.staff_grounded 0 some_row shared
  have bound : (bindRows .staff 0 rows).isOk = true := by decide +kernel
  refine ⟨Schema.staff_grounded, some_row, shared, ?_⟩
  cases plural : bindRows .staff 0 rows with
  | error e => simp [plural, Except.isOk, Except.toBool] at bound
  | ok objects =>
      rw [plural] at last
      exact ⟨objects, rfl, (each objects).mp plural, last, strict⟩

end Record

end QueryBind
