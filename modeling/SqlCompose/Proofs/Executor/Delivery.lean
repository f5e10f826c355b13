import SqlCompose.Proofs.Executor.Calls
import SqlCompose.Proofs.Stmt.Batch
import SqlCompose.Proofs.Stmt.Building
import SqlCompose.Proofs.Stmt.Placeholders

/-! # From a statement to the driver

Every value bound in a statement must reach the driver, with the text that has a marker for it.  An
executor looks only at whether a statement left groups: if so it sends a batch of these, if not it
hands over the flat arguments.  So both sorts must not come together, there must be a group for
each row of the statement, and every list handed over must have as many values as markers stand in
the text.

This holds of a statement as long as the only batch written in it is the statement itself.  The
groups of a batch further inside are taken for groups of the whole: the flat arguments are not sent,
and there are too many groups.

Main statement: `Stmt.delivered_iff`, which says when the values of an aligned statement are
delivered.  Statements that are built from aligned inputs are aligned (`Stmt.run_aligned`).
-/

namespace SqlCompose

open Playback

/-- A call hands over the text of a rendered statement, and as many values as that has markers. -/
def Playback.DriverCall.Carries (dialect : Dialect) (t : Writer) : DriverCall → Prop
  | .exec sql args => sql = (t.setPlaceholders dialect).text ∧ args.length = markerCount t.text
  | .query sql args => sql = (t.setPlaceholders dialect).text ∧ args.length = markerCount t.text
  | .prepare _ sql => sql = (t.setPlaceholders dialect).text
  | .batch _ entries => ∀ entry ∈ entries, entry.length = markerCount t.text
  | .deallocate _ => True

namespace Stmt

/-- All calls made to execute a statement carry its text and its values, whatever the configuration
and the answers of the driver. -/
def Carried (s : Stmt) (t : Writer) : Prop :=
  ∀ config st calls, Makes ((executor config).exec s) st calls →
    ∀ call ∈ calls, DriverCall.Carries config.dialect t call

/-- No bound value is lost between a statement, rendered as `t`, and the driver. -/
structure Delivered (s : Stmt) (t : Writer) : Prop where
  apart : t.args = [] ∨ t.groups = []
  counted : t.groups.length = 0 ∨ t.groups.length = s.rowCount
  carried : s.Carried t

/-! ## What is handed over -/

/-- A statement that can be written is built with placeholders in place of its markers. -/
theorem build_of_written {s : Stmt} {t : Writer} (written : s.writeTo {} = (.ok (), t))
    (dialect : Dialect) : s.build dialect = .ok (t.setPlaceholders dialect) := by
  rw [build, render, written]

/-- The values are carried if there are as many flat arguments as markers, or as many in each
group. -/
theorem carried_iff {s : Stmt} {t : Writer} (written : s.writeTo {} = (.ok (), t)) :
    s.Carried t ↔ (t.groups = [] → t.args.length = markerCount t.text) ∧
      ∀ group ∈ t.groups, group.length = markerCount t.text := by
  constructor
  · intro carried
    -- one run of an executor is enough to see what is handed over
    have built := build_of_written written ({} : ExecConfig).dialect
    refine ⟨?_, ?_⟩
    · intro flat
      have call := carried {} {} _ (makes_exec_flat {} built {} flat) _ List.mem_cons_self
      split at call
      · exact call.2
      · exact call.2
    · intro group hgroup
      have groups : t.groups ≠ [] := List.ne_nil_of_mem hgroup
      have calls := carried {} {} _ (makes_exec_groups {} built {} groups)
      rw [prepare_plain] at calls
      exact calls _ (List.mem_cons_of_mem _ List.mem_cons_self) group hgroup
  · rintro ⟨flat, grouped⟩ config st calls made call hcall
    have built := build_of_written written config.dialect
    by_cases groups : t.groups = []
    · obtain rfl := made.unique (makes_exec_flat config built st groups)
      rw [List.mem_singleton] at hcall
      subst hcall
      split
      · exact ⟨rfl, flat groups⟩
      · exact ⟨rfl, flat groups⟩
    · obtain rfl := made.unique (makes_exec_groups config built st groups)
      rcases List.mem_cons.1 hcall with rfl | hcall
      · exact rfl
      · split at hcall
        · cases hcall
        · rcases List.mem_cons.1 hcall with rfl | hcall
          · exact grouped
          · split at hcall
            · rw [List.mem_singleton] at hcall
              subst hcall
              trivial
            · cases hcall

/-! ## What is left of a statement -/

/-- No batch is written strictly inside the statement. -/
def SingleInside (s : Stmt) : Prop :=
  ∀ t ∈ s.writtenParts, ∀ u ∈ t.written, ¬u.IsBatch

/-- The groups from inside the statement happen to fit it: it writes no rows of its own, but holds
as many as there are groups, has no flat arguments, and each group has as many values as there are
markers. -/
structure FitsByChance (s : Stmt) (t : Writer) : Prop where
  noRows : ¬s.WritesRows
  noArgs : t.args = []
  counted : t.groups.length = s.rowCount
  filled : ∀ group ∈ t.groups, group.length = markerCount t.text

section

variable {s : Stmt} {t : Writer}

/-- Without a batch inside, no part leaves groups. -/
theorem SingleInside.groupCount_eq_zero (h : s.SingleInside) :
    ∀ u ∈ s.writtenParts, u.groupCount = 0 :=
  fun u hu => Stmt.groupCount_eq_zero (h u hu)

theorem SingleInside.not_isBatch (h : s.SingleInside) (single : ¬s.IsBatch) :
    ∀ u ∈ s.written, ¬u.IsBatch := by
  intro u hu
  rw [written_eq] at hu
  rcases List.mem_cons.1 hu with rfl | hu
  · exact single
  · obtain ⟨part, hpart, hu⟩ := List.mem_flatMap.1 hu
    exact h part hpart u hu

/-- A statement that is no batch, and has none inside, leaves flat arguments for its markers. -/
theorem SingleInside.flat (h : s.SingleInside) (single : ¬s.IsBatch) (aligned : s.Aligned)
    (written : s.write {} = .ok () t) :
    t.groups = [] ∧ t.args.length = markerCount t.text := by
  have noBatch : ∀ u ∈ s.written, ¬u.IsBatch := h.not_isBatch single
  have pieces : t = Writer.ofPieces s.pieces := eq_ofPieces aligned noBatch written
  refine ⟨?_, (markerCount_eq aligned noBatch written).symm⟩
  rw [pieces]
  rfl

theorem rowParts_only_subset {row : List Operand} (hrow : row ∈ s.rows) :
    ∀ u ∈ (s.only row).rowParts, u ∈ s.rowParts := by
  intro u hu
  obtain ⟨o, ho, part⟩ := List.mem_filterMap.1 hu
  simp only [only_rows, List.flatten_cons, List.flatten_nil, List.append_nil] at ho
  exact mem_rowParts hrow ho part

/-- An aligned statement with one of its rows only is aligned. -/
theorem Aligned.only (h : s.Aligned) {row : List Operand} (hrow : row ∈ s.rows) :
    (s.only row).Aligned := by
  intro u hu
  rw [within_eq] at hu
  rcases List.mem_cons.1 hu with rfl | hu
  · refine ⟨h.own.clauses, h.own.sources, ?_, h.own.columns, h.own.operands⟩
    intro row' hrow'
    obtain rfl : row' = row := List.mem_singleton.1 hrow'
    exact h.own.rows row' hrow
  · obtain ⟨part, hpart, hu⟩ := List.mem_flatMap.1 hu
    -- what is left of the parts was a part before
    have isPart : part ∈ s.parts := by
      simp only [parts, List.mem_append] at hpart ⊢
      rcases hpart with (hpart | hpart) | hpart
      · exact .inl (.inl hpart)
      · exact .inl (.inr (rowParts_only_subset hrow part hpart))
      · exact .inr hpart
    exact h u (mem_within_of_part isPart hu)

/-- A single row of a batch with no batch inside has none either. -/
theorem SingleInside.only (h : s.SingleInside) (own : s.WritesRows) {row : List Operand}
    (hrow : row ∈ s.rows) : ∀ u ∈ (s.only row).written, ¬u.IsBatch := by
  have ownOnly : (s.only row).WritesRows := own
  have single : ¬(s.only row).IsBatch := by
    rintro ⟨_, several⟩
    cases Nat.lt_irrefl 1 several
  apply SingleInside.not_isBatch _ single
  intro part hpart
  rw [ownOnly.writtenParts] at hpart
  rw [SingleInside, own.writtenParts] at h
  exact h part (rowParts_only_subset hrow part hpart)

/-- The groups of a batch with no batch inside have as many values as there are markers. -/
theorem SingleInside.grouped (h : s.SingleInside) (batch : s.IsBatch) (aligned : s.Aligned)
    (written : s.write {} = .ok () t) :
    t.args = [] ∧ t.groups.length = s.rowCount ∧
      ∀ group ∈ t.groups, group.length = markerCount t.text := by
  obtain ⟨own, several⟩ := batch
  have inner : ∀ u ∈ s.rowParts, u.groupCount = 0 := by
    rw [← own.writtenParts]
    exact h.groupCount_eq_zero
  obtain ⟨noArgs, singles⟩ := ((own.inserts written).write_eq_ok several inner t).1 written
  refine ⟨noArgs, singles.length_eq.symm, ?_⟩
  intro group hgroup
  -- the group is the arguments of a single row, and that is no batch
  have ofRows := (List.forall₂_and_left s.rows t.groups).2 ⟨fun row hrow => hrow, singles⟩
  obtain ⟨row, hrow, single⟩ := exists_of_forall₂ ofRows.flip hgroup
  exact (markerCount_eq (aligned.only hrow) (h.only own hrow) single).symm

/-- A batch strictly inside a statement leaves two groups or more besides those of the statement. -/
theorem groups_of_batch_inside (h : ¬s.SingleInside) (written : s.write {} = .ok () t) :
    s.ownGroups + 2 ≤ t.groups.length := by
  unfold SingleInside at h
  push Not at h
  obtain ⟨part, hpart, u, hu, batch⟩ := h
  -- groups add up over what is written, so those of the part are on top of its own
  have counted : t.groups.length = 0 + s.groupCount := adds_write s {} t written
  have inside : 2 ≤ part.groupCount := two_le_groupCount hu batch
  have member : part.groupCount ≤ (s.writtenParts.map groupCount).sum :=
    List.le_sum_of_mem (List.mem_map.2 ⟨part, hpart, rfl⟩)
  rw [groupCount_eq] at counted
  omega

/-- With a batch inside, the values are delivered by chance only. -/
theorem Delivered.fitsByChance (delivered : s.Delivered t) (h : ¬s.SingleInside)
    (written : s.writeTo {} = (.ok (), t)) : s.FitsByChance t := by
  have several : s.ownGroups + 2 ≤ t.groups.length :=
    groups_of_batch_inside h (writeTo_eq_ok.1 written)
  have counted : t.groups.length = s.rowCount := by
    rcases delivered.counted with none | counted
    · omega
    · exact counted
  refine ⟨?_, ?_, counted, ((carried_iff written).1 delivered.carried).2⟩
  · intro own
    -- the groups from inside come on top of those of its own rows, or of its single row
    have rowCount : s.rowCount = s.rows.length := rfl
    by_cases batch : s.IsBatch
    · have ownGroups : s.ownGroups = s.rows.length := if_pos batch
      omega
    · have few : ¬2 ≤ s.rows.length := fun several => batch ⟨own, several⟩
      omega
  · rcases delivered.apart with noArgs | noGroups
    · exact noArgs
    · rw [noGroups, List.length_nil] at several
      omega

end

/-- The values of an aligned statement are delivered exactly if no batch is written strictly inside
it, or the groups from inside happen to fit. -/
theorem delivered_iff {s : Stmt} {t : Writer} (aligned : s.Aligned)
    (written : s.writeTo {} = (.ok (), t)) :
    s.Delivered t ↔ s.SingleInside ∨ s.FitsByChance t := by
  have success : s.write {} = .ok () t := writeTo_eq_ok.1 written
  constructor
  · intro delivered
    by_cases inside : s.SingleInside
    · exact .inl inside
    · exact .inr (delivered.fitsByChance inside written)
  · rintro (inside | chance)
    · -- a batch sends its groups, any other statement its flat arguments
      by_cases batch : s.IsBatch
      · obtain ⟨noArgs, counted, filled⟩ := inside.grouped batch aligned success
        refine ⟨.inl noArgs, .inr counted, (carried_iff written).2 ⟨?_, filled⟩⟩
        intro flat
        have several : 2 ≤ s.rows.length := batch.2
        have rowCount : s.rowCount = s.rows.length := rfl
        rw [flat, List.length_nil] at counted
        omega
      · obtain ⟨flat, filled⟩ := inside.flat batch aligned success
        refine ⟨.inr flat, .inl ?_, (carried_iff written).2 ⟨fun _ => filled, ?_⟩⟩
        · rw [flat, List.length_nil]
        · intro group hgroup
          rw [flat] at hgroup
          cases hgroup
    · refine ⟨.inl chance.noArgs, .inr chance.counted,
        (carried_iff written).2 ⟨?_, chance.filled⟩⟩
      intro flat
      -- without groups there is no batch at all, and the arguments are those of the markers
      have counted : t.groups.length = 0 + s.groupCount := adds_write s {} t success
      have single : ∀ u ∈ s.written, ¬u.IsBatch := by
        intro u hu batch
        have several : 2 ≤ s.groupCount := two_le_groupCount hu batch
        rw [flat, List.length_nil] at counted
        omega
      exact (markerCount_eq aligned single success).symm

/-- An INSERT of two rows with a value each. -/
def insertTwo : Stmt :=
  (({} : Stmt).run [.insert (.table "t"), .intoColumns ["a"], .values (.row [.value (.int32 1)]),
    .values (.row [.value (.int32 2)])] {}).1

theorem insertTwo_delivered :
    insertTwo.Aligned ∧
    insertTwo.writeTo {} = (.ok (),
      ⟨"INSERT INTO t (a) VALUES (??)", [], [[.int32 1], [.int32 2]]⟩) ∧
    insertTwo.Delivered ⟨"INSERT INTO t (a) VALUES (??)", [], [[.int32 1], [.int32 2]]⟩ := by
  have within : insertTwo.within = [insertTwo] := by
    rw [within_eq]
    rfl
  have aligned : insertTwo.Aligned := by
    rw [Aligned, within]
    decide +kernel
  have written : insertTwo.writeTo {} = (.ok (),
      ⟨"INSERT INTO t (a) VALUES (??)", [], [[.int32 1], [.int32 2]]⟩) := by
    rfl
  have inside : insertTwo.SingleInside := by
    intro part hpart
    cases hpart
  exact ⟨aligned, written, (delivered_iff aligned written).2 (.inl inside)⟩

/-- An INSERT of two rows without bound values. -/
def insertRaw : Stmt :=
  (({} : Stmt).run [.insert (.table "t"), .intoColumns ["a"], .values (.row [.raw "NOW()"]),
    .values (.row [.raw "NOW()"])] {}).1

/-- A SELECT from an INSERT of two rows, with a condition that binds a value. -/
def selectOfBatch : Stmt :=
  (({} : Stmt).run [.select (.stmt insertRaw),
    .condition .and (.cond (.expr "x = ??" [.int32 3]))] {}).1

/-- The value of the condition is lost: it is a flat argument, and there are groups. -/
theorem selectOfBatch_not_delivered :
    selectOfBatch.Aligned ∧
    ∃ t, selectOfBatch.writeTo {} = (.ok (), t) ∧ ¬(t.args = [] ∨ t.groups = []) ∧
      ¬(t.groups.length = 0 ∨ t.groups.length = selectOfBatch.rowCount) ∧
      ¬selectOfBatch.Carried t ∧ ¬selectOfBatch.Delivered t := by
  have within : selectOfBatch.within = [selectOfBatch, insertRaw] := by
    have inside : insertRaw.within = [insertRaw] := by
      rw [within_eq]
      rfl
    have parts : selectOfBatch.parts = [insertRaw] := rfl
    rw [within_eq, parts, List.flatMap_singleton, inside]
  have aligned : selectOfBatch.Aligned := by
    rw [Aligned, within]
    decide +kernel
  have written : selectOfBatch.writeTo {} = (.ok (),
      ⟨"SELECT * FROM (INSERT INTO t (a) VALUES (NOW())) WHERE x = ??", [.int32 3], [[], []]⟩) := by
    rfl
  have together : ¬(([.int32 3] : List Value) = [] ∨ ([[], []] : List (List Value)) = []) := by
    simp
  refine ⟨aligned, _, written, together, by decide, ?_, fun delivered => together delivered.apart⟩
  intro carried
  have filled := ((carried_iff written).1 carried).2 [] List.mem_cons_self
  revert filled
  decide +kernel

end Stmt

end SqlCompose
