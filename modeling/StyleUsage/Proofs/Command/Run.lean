import StyleUsage.Command.Run
import StyleUsage.Proofs.Report.Console

/-!
# Parts of runs

What a part of a run leads to depends on what was done before only in so far as it is added to that.
A result that is required ends the run or is handed on, and neither prints nor writes anything.
-/

namespace StyleUsage.Command

namespace Run

variable {α γ : Type} {T T' : Transcript} {console : Report.Console}

/-- What a part of a run leads to, given what was done before. -/
def exec (x : Run α) (T : Transcript) : Except Failure α × Transcript := x.run T

theorem exec_require {ε : Type} (failure : ε → Failure) (x : Except ε α) :
    exec (require failure x) T = (x.mapError failure, T) := by
  cases x <;> rfl

theorem exec_bind (x : Run α) (k : α → Run γ) : exec (x >>= k) T =
    match exec x T with
    | (.ok a, T') => exec (k a) T'
    | (.error f, T') => (.error f, T') := by
  unfold exec ExceptT.run
  simp only [bind, ExceptT.bind, ExceptT.mk, StateT.bind, ExceptT.bindCont]
  rcases x T with ⟨_ | a, T'⟩ <;> rfl

/-- A part of a run that has a result goes on from where it ended. -/
theorem exec_bind_eq_ok {x : Run α} {k : α → Run γ} {c : γ} :
    exec (x >>= k) T = (.ok c, T') ↔
      ∃ a T₁, exec x T = (.ok a, T₁) ∧ exec (k a) T₁ = (.ok c, T') := by
  rw [exec_bind]
  rcases exec x T with ⟨_ | a, T₁⟩ <;> simp

/-- A result that is required is the only thing that matters. -/
theorem exec_require_bind {ε : Type} (failure : ε → Failure) (x : Except ε α) (k : α → Run γ) :
    exec (require failure x >>= k) T =
      match x.mapError failure with
      | .ok a => exec (k a) T
      | .error f => (.error f, T) := by
  rw [exec_bind, exec_require]
  cases x <;> rfl

theorem exec_paragraph {s shown : String} (h : console.markup s = .ok shown) :
    exec (paragraph console s) T =
      (.ok (), { T with output := T.output ++ console.paragraph shown }) := by
  unfold paragraph
  rw [h]
  rfl

theorem exec_table {t t' : Report.Table} (h : console.shownTable t = .ok t') :
    exec (table console t) T =
      (.ok (), { T with output := T.output ++ console.table t' }) := by
  unfold table
  rw [h]
  rfl

def Ends (x : Run Unit) (T : Transcript) : Prop := ∃ T', exec x T = (.ok (), T')

theorem exec_paragraph_eq_ok_iff {s : String} : exec (paragraph console s) T = (.ok (), T') ↔
    ∃ shown, console.markup s = .ok shown ∧
      { T with output := T.output ++ console.paragraph shown } = T' := by
  cases hs : console.markup s with
  | error e =>
    unfold paragraph
    rw [exec_require_bind, hs]
    simp [Except.mapError]
  | ok shown => simp [exec_paragraph hs]

theorem exec_table_eq_ok_iff {t : Report.Table} : exec (table console t) T = (.ok (), T') ↔
    ∃ t', console.shownTable t = .ok t' ∧
      { T with output := T.output ++ console.table t' } = T' := by
  cases ht : console.shownTable t with
  | error e =>
    unfold table
    rw [exec_require_bind, ht]
    simp [Except.mapError]
  | ok t' => simp [exec_table ht]

theorem exec_paragraphs_eq_ok_iff {line : α → String} {xs : List α} :
    exec (xs.forM fun x => paragraph console (line x)) T = (.ok (), T') ↔
      ∃ shown, List.Forall₂ (fun x s => console.markup (line x) = .ok s) xs shown ∧
        { T with output := T.output ++ String.join (shown.map console.paragraph) } = T' := by
  induction xs generalizing T with
  | nil =>
    have hnothing : ({ T with output := T.output ++ String.join ([].map console.paragraph) } :
        Transcript) = T := by
      rw [List.map_nil, String.join_nil, String.append_empty]
    constructor
    · intro h
      cases h
      exact ⟨[], .nil, hnothing⟩
    · rintro ⟨shown, hshown, rfl⟩
      cases hshown
      rw [hnothing]
      rfl
  | cons x xs ih =>
    show exec (paragraph console (line x) >>= fun _ =>
      xs.forM fun x => paragraph console (line x)) T = _ ↔ _
    rw [exec_bind_eq_ok]
    constructor
    · rintro ⟨_, T₁, hx, hxs⟩
      obtain ⟨s, hs, rfl⟩ := exec_paragraph_eq_ok_iff.1 hx
      obtain ⟨shown, hshown, rfl⟩ := ih.1 hxs
      exact ⟨s :: shown, .cons hs hshown, by
        rw [List.map_cons, String.join_cons, ← String.append_assoc]⟩
    · rintro ⟨shown, hshown, rfl⟩
      cases hshown with
      | cons hs hshown =>
        refine ⟨(), _, exec_paragraph_eq_ok_iff.2 ⟨_, hs, rfl⟩, ih.2 ⟨_, hshown, ?_⟩⟩
        rw [List.map_cons, String.join_cons, ← String.append_assoc]

end Run

end StyleUsage.Command
