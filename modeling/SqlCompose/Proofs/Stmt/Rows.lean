import Mathlib.Data.List.Forall2
import SqlCompose.Proofs.Stmt.Steps

/-! # The rows of an INSERT

Several rows share one text, that of the first.  A row fits a template if it has a value for every
column and, written by itself, gives that text.

Main statements:

* `rows_eq_ok`: several rows are written exactly if they all fit one template, and then leave that
  text and the groups of the rows;
* `rows_error`: otherwise the first row that does not agree with the first one is to blame.
-/

namespace SqlCompose.Rendering

/-- A row has a value for every column and, written by itself, leaves a writer with the text of the
template. -/
def WritesRow (columns : Nat) (template : String) (r : List (Rendering Unit)) (v : Writer) : Prop :=
  r.length = columns ∧ row r {} = .ok () v ∧ v.text = template

/-- A row fits a template. -/
def Fits (columns : Nat) (template : String) (r : List (Rendering Unit)) : Prop :=
  ∃ v, WritesRow columns template r v

/-- Two rows fit one template. -/
def Agree (columns : Nat) (first r : List (Rendering Unit)) : Prop :=
  ∃ template, Fits columns template first ∧ Fits columns template r

/-- What is wrong with a row that does not fit: its length, or what fails in it, or its text. -/
def blame (columns index : Nat) (r : List (Rendering Unit)) : SqlError :=
  if r.length = columns then
    match row r {} with
    | .ok () _ => .unsupported (.rowShape index)
    | .error e _ => e
  else .unsupported (.rowLength index r.length columns)

/-- The groups that rows leave: those from inside a row, and then the row's own. -/
def rowGroups (vs : List Writer) : List (List Value) :=
  vs.flatMap fun v => v.groups ++ [v.args]

/-- A row fits one template at most. -/
theorem Fits.unique {columns : Nat} {t u : String} {r : List (Rendering Unit)}
    (ht : Fits columns t r) (hu : Fits columns u r) : t = u := by
  obtain ⟨v, _, hv, rfl⟩ := ht
  obtain ⟨v', _, hv', rfl⟩ := hu
  rw [hv] at hv'
  cases hv'
  rfl

section

variable {columns : Nat} {template : String} {r : List (Rendering Unit)} (h : AppendOnly (row r))

include h

/-- A row that fits leaves its groups, and the later rows follow. -/
theorem laterRows_of_writesRow {v : Writer} (hv : WritesRow columns template r v) (index : Nat)
    (rest : List (List (Rendering Unit))) (w : Writer) :
    laterRows columns template index (r :: rest) w
      = laterRows columns template (index + 1) rest (w ++ ⟨"", [], v.groups ++ [v.args]⟩) := by
  obtain ⟨length, written, text⟩ := hv
  rw [laterRows_cons h, if_pos length, written]
  exact if_pos text

/-- At a row that does not fit it stops. -/
theorem laterRows_of_not_fits (misfit : ¬Fits columns template r) (index : Nat)
    (rest : List (List (Rendering Unit))) (w : Writer) :
    ∃ w', laterRows columns template index (r :: rest) w
      = .error (blame columns index r) w' := by
  rw [laterRows_cons h]
  unfold blame
  by_cases length : r.length = columns
  · rw [if_pos length, if_pos length]
    cases hv : row r {} with
    | error e v => exact ⟨_, rfl⟩
    | ok u v =>
      have text : v.text ≠ template := by
        intro same
        exact misfit ⟨v, length, hv, same⟩
      simp only [if_neg text]
      exact ⟨_, rfl⟩
  · rw [if_neg length, if_neg length]
    exact ⟨_, rfl⟩

end

/-- The groups of a row, and those of the rows behind it. -/
theorem append_rowGroups (u v : Writer) (text : String) (vs : List Writer) :
    u ++ ⟨text, [], v.groups ++ [v.args]⟩ ++ (⟨"", [], rowGroups vs⟩ : Writer)
      = u ++ ⟨text, [], rowGroups (v :: vs)⟩ := by
  apply Writer.eq_of_parts <;> simp [rowGroups]

variable {columns : Nat} {template : String}

/-- Later rows are written exactly if they all fit the template. -/
theorem laterRows_eq_ok {rs : List (List (Rendering Unit))} (h : ∀ r ∈ rs, AppendOnly (row r))
    (index : Nat) (w w' : Writer) :
    laterRows columns template index rs w = .ok () w' ↔
      ∃ vs, List.Forall₂ (WritesRow columns template) rs vs ∧
        w' = w ++ ⟨"", [], rowGroups vs⟩ := by
  induction rs generalizing index w with
  | nil =>
    constructor
    · intro hw
      cases hw
      exact ⟨[], .nil, (Writer.append_empty _).symm⟩
    · rintro ⟨vs, fits, rfl⟩
      cases fits
      exact congrArg (EStateM.Result.ok ()) (Writer.append_empty w).symm
  | cons r rest ih =>
    have hr : AppendOnly (row r) := h r List.mem_cons_self
    have hrest : ∀ r' ∈ rest, AppendOnly (row r') :=
      fun r' hr' => h r' (List.mem_cons_of_mem _ hr')
    constructor
    · intro hw
      -- a row that does not fit would have ended it
      by_cases fits : Fits columns template r
      · obtain ⟨v, hv⟩ := fits
        rw [laterRows_of_writesRow hr hv, ih hrest] at hw
        obtain ⟨vs, fits, rfl⟩ := hw
        exact ⟨v :: vs, .cons hv fits, append_rowGroups w v "" vs⟩
      · obtain ⟨v, hv⟩ := laterRows_of_not_fits hr fits index rest w
        rw [hv] at hw
        cases hw
    · rintro ⟨vs, fits, rfl⟩
      cases fits with
      | @cons _ v _ vs hv fits =>
        rw [laterRows_of_writesRow hr hv, ih hrest]
        exact ⟨vs, fits, (append_rowGroups w v "" vs).symm⟩

/-- If later rows fail, it is because of the first one that does not fit. -/
theorem laterRows_error {rs : List (List (Rendering Unit))} (h : ∀ r ∈ rs, AppendOnly (row r))
    {index : Nat} {w w' : Writer} {e : SqlError}
    (failed : laterRows columns template index rs w = .error e w') :
    ∃ i, ∃ hi : i < rs.length, (∀ j, ∀ hj : j < i, Fits columns template rs[j]) ∧
      ¬Fits columns template rs[i] ∧ e = blame columns (index + i) rs[i] := by
  induction rs generalizing index w with
  | nil => cases failed
  | cons r rest ih =>
    have hr : AppendOnly (row r) := h r List.mem_cons_self
    have hrest : ∀ r' ∈ rest, AppendOnly (row r') :=
      fun r' hr' => h r' (List.mem_cons_of_mem _ hr')
    by_cases fits : Fits columns template r
    · obtain ⟨v, hv⟩ := fits
      rw [laterRows_of_writesRow hr hv] at failed
      -- the row to blame is one further from here than from the next row
      obtain ⟨i, hi, before, misfit, rfl⟩ := ih hrest failed
      refine ⟨i + 1, Nat.succ_lt_succ hi, ?_, misfit, ?_⟩
      · intro j hj
        cases j with
        | zero => exact ⟨v, hv⟩
        | succ j => exact before j (Nat.lt_of_succ_lt_succ hj)
      · rw [List.getElem_cons_succ, Nat.add_assoc, Nat.add_comm 1 i]
    · obtain ⟨v, hv⟩ := laterRows_of_not_fits hr fits index rest w
      rw [hv] at failed
      cases failed
      refine ⟨0, Nat.succ_pos _, ?_, fits, rfl⟩
      intro j hj
      exact absurd hj (Nat.not_lt_zero j)

section

variable (columns) {first next : List (Rendering Unit)} {rest : List (List (Rendering Unit))}
  (h : ∀ r ∈ first :: next :: rest, AppendOnly (row r))

include h

/-- Several rows are written exactly if they all fit one template; they leave that text, and the
groups of the rows in order. -/
theorem rows_eq_ok (w w' : Writer) :
    rows columns (first :: next :: rest) w = .ok () w' ↔
      ∃ template vs, List.Forall₂ (WritesRow columns template) (first :: next :: rest) vs ∧
        w' = w ++ ⟨template, [], rowGroups vs⟩ := by
  have hfirst : AppendOnly (row first) := h first List.mem_cons_self
  have hrest : ∀ r ∈ next :: rest, AppendOnly (row r) :=
    fun r hr => h r (List.mem_cons_of_mem _ hr)
  rw [rows_cons_cons hfirst]
  constructor
  · intro hw
    by_cases length : first.length = columns
    · rw [if_pos length] at hw
      cases hv : row first {} with
      | error e v =>
        rw [hv] at hw
        cases hw
      | ok u v =>
        rw [hv] at hw
        obtain ⟨vs, fits, rfl⟩ := (laterRows_eq_ok hrest _ _ _).1 hw
        exact ⟨v.text, v :: vs, .cons ⟨length, hv, rfl⟩ fits, append_rowGroups w v v.text vs⟩
    · rw [if_neg length] at hw
      cases hw
  · rintro ⟨template, vs, fits, rfl⟩
    cases fits with
    | @cons _ v _ vs hv fits =>
      -- the template is the text of the first row
      obtain ⟨length, written, rfl⟩ := hv
      rw [if_pos length, written]
      exact (laterRows_eq_ok hrest _ _ _).2 ⟨vs, fits, (append_rowGroups w v v.text vs).symm⟩

/-- If several rows fail, it is because of the first one that does not agree with the first. -/
theorem rows_error {w w' : Writer} {e : SqlError}
    (failed : rows columns (first :: next :: rest) w = .error e w') :
    ∃ i, ∃ hi : i < (first :: next :: rest).length,
      (∀ j, ∀ hj : j < i, Agree columns first (first :: next :: rest)[j]) ∧
      ¬Agree columns first (first :: next :: rest)[i] ∧
      e = blame columns i (first :: next :: rest)[i] := by
  have hfirst : AppendOnly (row first) := h first List.mem_cons_self
  have hrest : ∀ r ∈ next :: rest, AppendOnly (row r) :=
    fun r hr => h r (List.mem_cons_of_mem _ hr)
  rw [rows_cons_cons hfirst] at failed
  by_cases fits : ∃ template, Fits columns template first
  · obtain ⟨template, v, length, hv, text⟩ := fits
    -- the first row sets the template, so to agree with it is to fit that template
    have firstFits : Fits columns template first := ⟨v, length, hv, text⟩
    rw [if_pos length, hv] at failed
    simp only [text] at failed
    obtain ⟨i, hi, before, misfit, rfl⟩ := laterRows_error hrest failed
    refine ⟨i + 1, Nat.succ_lt_succ hi, ?_, ?_, ?_⟩
    · intro j hj
      cases j with
      | zero => exact ⟨template, firstFits, firstFits⟩
      | succ j => exact ⟨template, firstFits, before j (Nat.lt_of_succ_lt_succ hj)⟩
    · rintro ⟨other, firstFits', fits⟩
      rw [firstFits'.unique firstFits] at fits
      exact misfit fits
    · rw [List.getElem_cons_succ, Nat.add_comm 1 i]
  · -- the first row itself fails, and so agrees with none
    refine ⟨0, Nat.succ_pos _, ?_, ?_, ?_⟩
    · intro j hj
      exact absurd hj (Nat.not_lt_zero j)
    · rintro ⟨template, firstFits, _⟩
      exact fits ⟨template, firstFits⟩
    · rw [List.getElem_cons_zero]
      unfold blame
      by_cases length : first.length = columns
      · rw [if_pos length] at failed ⊢
        cases hv : row first {} with
        | error e' v =>
          rw [hv] at failed
          cases failed
          rfl
        | ok u v => exact absurd ⟨v.text, v, length, hv, rfl⟩ fits
      · rw [if_neg length] at failed ⊢
        cases failed
        rfl

end

end SqlCompose.Rendering
