import Mathlib.Data.List.Basic

/-!
# One run beside another

A system goes from state to state by turns, and something is seen of each. When one system follows
another turn by turn, but for some turns that only the other takes and of which nothing is seen, it
does so through whole runs: the other's run, with those turns left out, is a run of its own
(`Follows.run`).
-/

namespace GuestNic

/-- A system with its runs: what one turn and what many turns lead to and show. -/
structure Course (S A α : Type) where
  next : S → A → S
  see : S → A → List α
  after : S → List A → S
  seen : S → List A → List α
  after_nil : ∀ s, after s [] = s := by intro _; rfl
  after_cons : ∀ s a as, after s (a :: as) = after (next s a) as := by intro _ _ _; rfl
  seen_nil : ∀ s, seen s [] = [] := by intro _; rfl
  seen_cons : ∀ s a as, seen s (a :: as) = see s a ++ seen (next s a) as := by intro _ _ _; rfl

namespace Course

variable {S T A α : Type} {first : Course S A α} {second : Course T A α} {isHidden : A → Bool}
  {rel : S → T → Prop}

/-- The second system takes the turns of the first that are not hidden, and they show the same. -/
structure Follows (first : Course S A α) (second : Course T A α) (isHidden : A → Bool)
    (rel : S → T → Prop) : Prop where
  hidden : ∀ {s t a}, rel s t → isHidden a = true → rel (first.next s a) t ∧ first.see s a = []
  shared : ∀ {s t a}, rel s t → isHidden a = false →
    rel (first.next s a) (second.next t a) ∧ first.see s a = second.see t a

/-- The turns that are not hidden. -/
def shown (isHidden : A → Bool) (as : List A) : List A := as.filter fun a => !isHidden a

theorem Follows.run (h : Follows first second isHidden rel) {s : S} {t : T} (hrel : rel s t)
    (as : List A) :
    rel (first.after s as) (second.after t (shown isHidden as)) ∧
      first.seen s as = second.seen t (shown isHidden as) := by
  induction as generalizing s t with
  | nil =>
    rw [shown, List.filter_nil, first.after_nil, second.after_nil, first.seen_nil, second.seen_nil]
    exact ⟨hrel, rfl⟩
  | cons a as ih =>
    rw [first.after_cons, first.seen_cons]
    cases ha : isHidden a with
    | true =>
      have hskip : shown isHidden (a :: as) = shown isHidden as :=
        List.filter_cons_of_neg (by simp [ha])
      obtain ⟨hnext, hsee⟩ := h.hidden hrel ha
      rw [hskip, hsee, List.nil_append]
      exact ih hnext
    | false =>
      have hkeep : shown isHidden (a :: as) = a :: shown isHidden as :=
        List.filter_cons_of_pos (by simp [ha])
      obtain ⟨hnext, hsee⟩ := h.shared hrel ha
      obtain ⟨hafter, hseen⟩ := ih hnext
      rw [hkeep, second.after_cons, second.seen_cons, hsee, hseen]
      exact ⟨hafter, rfl⟩

/-- If no turn is hidden, both take the same turns. -/
theorem Follows.run_all (h : Follows first second (fun _ => false) rel) {s : S} {t : T}
    (hrel : rel s t) (as : List A) :
    rel (first.after s as) (second.after t as) ∧ first.seen s as = second.seen t as := by
  have hall : shown (fun _ => false) as = as := List.filter_eq_self.2 fun _ _ => rfl
  have hrun := h.run hrel as
  rwa [hall] at hrun

end Course
end GuestNic
