import SqlCompose.Writer

/-! # Actions that only append

A writer can be put behind another one, part by part.  An action on writers only appends if it
writes the same behind every writer as it writes into an empty one, and ends the same way.

The actions that use marks do not append by themselves, but what a mark is used for does: behind
any writer, text and arguments written since a mark are found exactly (`textSince_mark`,
`cutText_mark`, `groupSince_mark`).  So no mark is ever lost.

Main statements: running on a writer is running on an empty one, put behind it
(`AppendOnly`), and this is kept by one action after another (`AppendOnly.bind`).
-/

namespace SqlCompose

namespace Writer

/-- What one writer holds, behind what another one holds. -/
def append (v w : Writer) : Writer :=
  ⟨v.text ++ w.text, v.args ++ w.args, v.groups ++ w.groups⟩

instance : Append Writer := ⟨append⟩

@[simp] theorem text_append (v w : Writer) : (v ++ w).text = v.text ++ w.text := rfl

@[simp] theorem args_append (v w : Writer) : (v ++ w).args = v.args ++ w.args := rfl

@[simp] theorem groups_append (v w : Writer) : (v ++ w).groups = v.groups ++ w.groups := rfl

/-- Writers are equal when their parts are. -/
theorem eq_of_parts {v w : Writer} (htext : v.text = w.text) (hargs : v.args = w.args)
    (hgroups : v.groups = w.groups) : v = w := by
  cases v
  cases w
  simp_all

@[simp] theorem empty_append (w : Writer) : ({} : Writer) ++ w = w := by
  apply eq_of_parts <;> simp

@[simp] theorem append_empty (w : Writer) : w ++ ({} : Writer) = w := by
  apply eq_of_parts <;> simp

theorem append_assoc (u v w : Writer) : u ++ v ++ w = u ++ (v ++ w) := by
  apply eq_of_parts <;> simp [String.append_assoc]

/-- Writing more text behind a writer is writing it behind the whole. -/
theorem append_put (v w : Writer) (text : String) : v ++ w.put text = (v ++ w).put text := by
  apply eq_of_parts <;> simp [put, String.append_assoc]

/-- Binding more arguments behind a writer is binding them behind the whole. -/
theorem append_bindAll (v w : Writer) (values : List Value) :
    v ++ w.bindAll values = (v ++ w).bindAll values := by
  apply eq_of_parts <;> simp [bindAll]

end Writer

namespace Rendering

variable {α β : Type}

/-- An outcome, with what the action wrote put behind a writer. -/
def behind (w : Writer) : EStateM.Result SqlError Writer α → EStateM.Result SqlError Writer α
  | .ok a v => .ok a (w ++ v)
  | .error e v => .error e (w ++ v)

@[simp] theorem behind_ok (w v : Writer) (a : α) :
    behind w (.ok a v) = .ok a (w ++ v) := rfl

@[simp] theorem behind_error (w v : Writer) (e : SqlError) :
    behind w (.error e v : EStateM.Result SqlError Writer α) = .error e (w ++ v) := rfl

theorem behind_behind (u v : Writer) (result : EStateM.Result SqlError Writer α) :
    behind u (behind v result) = behind (u ++ v) result := by
  cases result <;> simp [Writer.append_assoc]

/-- The action writes the same behind every writer, and ends the same way. -/
def AppendOnly (r : Rendering α) : Prop :=
  ∀ w, r w = behind w (r {})

/-! ## One action after another -/

theorem pure_apply (a : α) (w : Writer) : (pure a : Rendering α) w = .ok a w := rfl

theorem get_apply (w : Writer) : (get : Rendering Writer) w = .ok w w := rfl

theorem put_apply (text : String) (w : Writer) : put text w = .ok () (w.put text) := rfl

theorem mark_apply (w : Writer) : mark w = .ok w.mark w := rfl

/-- What follows runs on the writer that is left, unless the first action fails. -/
theorem bind_apply (r : Rendering α) (next : α → Rendering β) (w : Writer) :
    (r >>= next) w = match r w with
      | .ok a v => next a v
      | .error e v => .error e v := by
  show EStateM.bind r next w = _
  unfold EStateM.bind
  cases r w <;> rfl

/-- Two actions that succeed one after another. -/
theorem bind_eq_ok {r : Rendering α} {next : α → Rendering β} {u w : Writer} {b : β} :
    (r >>= next) u = .ok b w ↔ ∃ a v, r u = .ok a v ∧ next a v = .ok b w := by
  rw [bind_apply]
  constructor
  · intro h
    cases hr : r u with
    -- a failure of the first action is one of both
    | error e v =>
      rw [hr] at h
      cases h
    | ok a v =>
      rw [hr] at h
      exact ⟨a, v, rfl, h⟩
  · rintro ⟨a, v, hr, h⟩
    rw [hr]
    exact h

/-- Actions that only append may follow one another, and the whole only appends. -/
theorem AppendOnly.bind {r : Rendering α} {next : α → Rendering β} (hr : AppendOnly r)
    (hnext : ∀ a, AppendOnly (next a)) : AppendOnly (r >>= next) := by
  intro w
  rw [bind_apply, bind_apply, hr w]
  cases r {} with
  | error e v => rfl
  | ok a v =>
    -- both sides go on behind `v`, and what follows only appends there too
    show next a (w ++ v) = behind w (next a v)
    rw [hnext a (w ++ v), hnext a v, behind_behind]

theorem AppendOnly.pure (a : α) : AppendOnly (Pure.pure a : Rendering α) := by
  intro w
  show EStateM.Result.ok a w = .ok a (w ++ {})
  rw [Writer.append_empty]

/-- Failing keeps what was written. -/
theorem AppendOnly.throw (e : SqlError) : AppendOnly (throw e : Rendering α) := by
  intro w
  show (EStateM.Result.error e w : EStateM.Result SqlError Writer α) = .error e (w ++ {})
  rw [Writer.append_empty]

/-- An update of the writer that is the same behind every writer only appends. -/
theorem AppendOnly.modify {f : Writer → Writer} (hf : ∀ w, f w = w ++ f {}) :
    AppendOnly (modify f : Rendering PUnit) := by
  intro w
  show EStateM.Result.ok PUnit.unit (f w) = .ok PUnit.unit (w ++ f {})
  rw [hf w]

theorem appendOnly_put (text : String) : AppendOnly (put text) := by
  apply AppendOnly.modify
  intro w
  rw [Writer.append_put, Writer.append_empty]

theorem appendOnly_bindAll (values : List Value) : AppendOnly (bindAll values) := by
  apply AppendOnly.modify
  intro w
  rw [Writer.append_bindAll, Writer.append_empty]

/-- Parts with a separator between them only append if each part does. -/
theorem appendOnly_separated {separator : String} {rs : List (Rendering Unit)}
    (h : ∀ r ∈ rs, AppendOnly r) : AppendOnly (separated separator rs) := by
  induction rs with
  | nil => exact .pure _
  | cons r rest ih =>
    have hr : AppendOnly r := h r List.mem_cons_self
    have hrest : AppendOnly (separated separator rest) :=
      ih fun r' hr' => h r' (List.mem_cons_of_mem _ hr')
    -- the last part has no separator behind it
    cases rest with
    | nil => exact hr
    | cons r' rest =>
      exact hr.bind fun _ => (appendOnly_put separator).bind fun _ => hrest

/-! ## Marks -/

/-- The text written since a mark is found behind every writer. -/
theorem textSince_mark (w v : Writer) : textSince w.mark (w ++ v) = .ok v.text (w ++ v) := by
  -- `w` ends where the mark stands, so the cut there gives `v`'s text back
  have h : (w ++ v).textSince? w.mark = some v.text := by
    simp [Writer.textSince?, Writer.mark, splitText?_append]
  unfold textSince
  rw [bind_apply, get_apply]
  dsimp only
  rw [h]
  rfl

/-- The text written since a mark is taken back, and the rest stays. -/
theorem cutText_mark (w v : Writer) :
    cutText w.mark (w ++ v) = .ok () (w ++ { v with text := "" }) := by
  have h : (w ++ v).cutText? w.mark = some (w ++ { v with text := "" }) := by
    simp only [Writer.cutText?, Writer.mark, Writer.text_append, splitText?_append,
      Option.map_some]
    congr 1
    apply Writer.eq_of_parts <;> simp
  unfold cutText
  rw [bind_apply, get_apply]
  dsimp only
  rw [h]
  rfl

/-- The arguments bound since a mark become the last group. -/
theorem groupSince_mark (w v : Writer) :
    groupSince w.mark (w ++ v) = .ok () (w ++ ⟨v.text, [], v.groups ++ [v.args]⟩) := by
  have h : (w ++ v).groupSince? w.mark = some (w ++ ⟨v.text, [], v.groups ++ [v.args]⟩) := by
    have inside : w.mark.args ≤ (w ++ v).args.length := by simp [Writer.mark]
    rw [Writer.groupSince?, if_pos inside]
    congr 1
    apply Writer.eq_of_parts <;> simp [Writer.mark]
  unfold groupSince
  rw [bind_apply, get_apply]
  dsimp only
  rw [h]
  rfl

end Rendering

end SqlCompose
