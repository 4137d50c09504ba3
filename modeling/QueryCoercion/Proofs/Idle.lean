import QueryCoercion.Proofs.Passes

namespace QueryCoercion

namespace Rules

theorem note_of_silent {r : Rules} {f : Field} (plain : f.isDateTime = false)
    (unread : r.read? f = none) (j : Journal) : r.note f j = j := by
  unfold note
  split
  · rename_i ref bound
    have undated : ref.isDateTime = false := by
      simpa [Field.isDateTime, bound, Binding.isDateTime] using plain
    simp [undated]
  · rw [unread]

theorem foldl_note_of_silent {r : Rules} (fields : List Field)
    (silent : ∀ f ∈ fields, f.isDateTime = false ∧ r.read? f = none) (j : Journal) :
    fields.foldl (fun j f => r.note f j) j = j := by
  induction fields with
  | nil => rfl
  | cons f rest ih =>
    obtain ⟨plain, unread⟩ := silent f List.mem_cons_self
    rw [List.foldl_cons, note_of_silent plain unread]
    exact ih fun g member => silent g (List.mem_cons_of_mem _ member)

theorem apply_of_isIdle {r : Rules} {e : Expr}
    (idle : r.typing.isIdle (Reads.ofExpr e).timestamps = true) (j : Journal) :
    r.apply e j = (e, j) := by
  rw [apply_eq, (rewrite_of_isIdle idle).1, foldl_note_of_silent]
  intro f member
  exact silent_of_isIdle idle (Expr.mem_leaves_of_outside member)

end Rules

theorem Pass.isIdle_of_unchanged {σ : Type} {c : Catalog σ} {context : Option Context} {e : Expr}
    {state : σ} (unchanged : (run c context e state).result = .ok .unchanged) :
    ∃ typing,
      (Typing.fetch c (Reads.ofExpr e) (context.bind Context.team) state).result = .ok typing ∧
      typing.isIdle (Reads.ofExpr e).timestamps = true := by
  obtain ⟨typing, fetched, -⟩ := fetched_of_run unchanged
  refine ⟨typing, fetched, ?_⟩
  rw [result_of_fetched fetched] at unchanged
  exact Rules.outcome_eq_unchanged_iff.mp (Except.ok.inj unchanged)

theorem Pass.context_of_unchanged {σ : Type} {c : Catalog σ} {context : Option Context} {e : Expr}
    {state : σ} (unchanged : (run c context e state).result = .ok .unchanged) :
    (run c context e state).context = context := by
  obtain ⟨typing, fetched, idle⟩ := isIdle_of_unchanged unchanged
  rw [(run_of_fetched fetched).2.1, (Rules.rewrite_of_isIdle idle).2]
  simp

/-- Whatever the catalog answers, a pass that leaves the tree alone has skipped nothing:
with the kinds it fetched, coercing the tree in any timezone gives the same tree, adds
nothing to a log and drops nothing where there is none. -/
theorem unchanged_pass_skips_nothing {σ : Type} (c : Catalog σ) (context : Option Context)
    (e : Expr) (state : σ)
    (unchanged : (Pass.run c context e state).result = .ok .unchanged) :
    ∃ typing,
      (Typing.fetch c (Reads.ofExpr e) (context.bind Context.team) state).result = .ok typing ∧
      (∀ timezone log, Rules.run ⟨timezone, typing⟩ log e = ⟨e, log, []⟩) ∧
      ∀ timezone journal, Rules.apply ⟨timezone, typing⟩ e journal = (e, journal) := by
  obtain ⟨typing, fetched, idle⟩ := Pass.isIdle_of_unchanged unchanged
  have applied (timezone : String) (journal : Journal) :
      Rules.apply ⟨timezone, typing⟩ e journal = (e, journal) :=
    Rules.apply_of_isIdle idle journal
  refine ⟨typing, fetched, ?_, applied⟩
  intro timezone log
  rw [Rules.run, applied]
  rfl

namespace Sample

/-- Answers every lookup with a name that nobody asked for, and without its kind. -/
def aside : Catalog Unit := ⟨fun _ _ => (.ok (.ofList [("aside", none)]), ())⟩

def adult : Expr :=
  .aliased "adult" (.negation (.binary (.field (read persons "properties" "adult"))
    (.comparison .eq) (.constant (.string "true") none) none)) none

end Sample

theorem unchanged_pass_over_adult :
    (Pass.run Sample.aside (some ⟨some 7, none, []⟩) Sample.adult ()).result = .ok .unchanged ∧
    ∃ typing,
      (Typing.fetch Sample.aside (Reads.ofExpr Sample.adult) (some 7) ()).result = .ok typing ∧
      ∀ timezone log, Rules.run ⟨timezone, typing⟩ log Sample.adult = ⟨Sample.adult, log, []⟩ := by
  have unchanged : (Pass.run Sample.aside (some ⟨some 7, none, []⟩) Sample.adult ()).result =
      .ok .unchanged := rfl
  obtain ⟨typing, fetched, runs, -⟩ :=
    unchanged_pass_skips_nothing Sample.aside (some ⟨some 7, none, []⟩) Sample.adult () unchanged
  exact ⟨unchanged, typing, fetched, runs⟩

end QueryCoercion
