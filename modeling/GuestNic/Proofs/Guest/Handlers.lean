import GuestNic.Guest.Handlers
import Mathlib.Data.Finset.Card
import Mathlib.Data.List.Induction

/-!
# Handler tables as finite maps

What is found under a key after any calls is read off the calls and their answers: the routine of
the last attachment of the key, unless it was detached later or the table was reset. `Outcome` says
what a single call can do. `table_is_finite_map` puts together what follows for all calls.
-/

namespace GuestNic

namespace HandlerTable

variable {t t' s : HandlerTable} {type key : UInt16} {routine : Routine}

/-! ## Looking up -/

/-- The handler under a key, unless it is the null routine. -/
def active? (t : HandlerTable) (key : UInt16) : Option Routine :=
  (t.find? key).filter fun routine => !routine.isNull

theorem active?_eq_some_iff :
    t.active? key = some routine ↔ t.find? key = some routine ∧ routine.isNull = false := by
  simp only [active?, Option.filter_eq_some_iff, Bool.not_eq_eq_eq_not, Bool.not_true]

theorem lookup_cons_eq (k key : UInt16) (v : Routine) (entries : List (UInt16 × Routine)) :
    ((k, v) :: entries).lookup key = if key = k then some v else entries.lookup key := by
  rw [List.lookup_cons]
  by_cases hkey : key = k
  · rw [if_pos hkey, hkey, beq_self_eq_true]
  · rw [if_neg hkey, beq_false_of_ne hkey]

theorem lookup_filter_ne (entries : List (UInt16 × Routine)) (type key : UInt16) :
    (entries.filter fun e => e.1 != type).lookup key =
      if key = type then none else entries.lookup key := by
  induction entries with
  | nil => exact (ite_self none).symm
  | cons e entries ih =>
    obtain ⟨k, v⟩ := e
    rw [List.filter_cons, lookup_cons_eq]
    -- An entry of the type is left out; any other is found as before.
    by_cases hk : k = type
    · rw [if_neg (by simp [hk]), ih]
      by_cases hkey : key = type
      · rw [if_pos hkey, if_pos hkey]
      · rw [if_neg hkey, if_neg hkey, if_neg fun heq => hkey (heq.trans hk)]
    · rw [if_pos (by simp [hk]), lookup_cons_eq, ih]
      by_cases hkey : key = type
      · rw [if_pos hkey, if_pos hkey, if_neg fun heq => hk (heq.symm.trans hkey)]
      · rw [if_neg hkey, if_neg hkey]

theorem find?_attach (h : t.attach type routine = .ok t') (key : UInt16) :
    t.find? type = none ∧ t'.find? key = if key = type then some routine else t.find? key := by
  unfold attach at h
  split at h
  · rename_i hnone
    cases h
    exact ⟨hnone, lookup_cons_eq type key routine t.entries⟩
  · cases h

theorem find?_detach (h : t.detach type = .ok t') (key : UInt16) :
    t'.find? key = if key = type then none else t.find? key := by
  unfold detach at h
  split at h
  · cases h
  · cases h
    exact lookup_filter_ne t.entries type key

/-- The types that have a handler. -/
def keys (t : HandlerTable) : Finset UInt16 := ⟨t.entries.map Prod.fst, t.nodup⟩

theorem mem_keys : key ∈ t.keys ↔ (t.find? key).isSome = true := by
  rw [Option.isSome_iff_ne_none]
  exact (find?_eq_none_iff.not_left).symm

theorem card_keys (t : HandlerTable) : t.keys.card = t.size := List.length_map Prod.fst

end HandlerTable

/-! ## Calls -/

/-- A call that is meant to change a table. -/
inductive TableCall where
  | attach (type : UInt16) (routine : Routine)
  | detach (type : UInt16)
  | reset

/-- Whether the call is about the key. -/
def TableCall.concerns (key : UInt16) : TableCall → Bool
  | .attach type _ => type == key
  | .detach type => type == key
  | .reset => true

/-- A call as it was answered. -/
structure TableEntry where
  call : TableCall
  answer : Except HandlerFault Unit

namespace HandlerTable

variable {t t' s : HandlerTable} {type key : UInt16} {routine : Routine}

/-- A table that refuses a call stays as it is. -/
def call (t : HandlerTable) : TableCall → HandlerTable × Except HandlerFault Unit
  | .attach type routine =>
    match t.attach type routine with
    | .ok t => (t, .ok ())
    | .error fault => (t, .error fault)
  | .detach type =>
    match t.detach type with
    | .ok t => (t, .ok ())
    | .error fault => (t, .error fault)
  | .reset => (.empty, .ok ())

/-- The table after calls, one after the other. -/
def after (t : HandlerTable) : List TableCall → HandlerTable
  | [] => t
  | k :: ks => after (t.call k).1 ks

/-- The calls with their answers. -/
def log (t : HandlerTable) : List TableCall → List TableEntry
  | [] => []
  | k :: ks => ⟨k, (t.call k).2⟩ :: log (t.call k).1 ks

/-- What becomes of a call: the table afterwards and the answer. -/
inductive Outcome (t : HandlerTable) :
    TableCall → HandlerTable × Except HandlerFault Unit → Prop where
  | attached {type : UInt16} {routine : Routine} {t' : HandlerTable} (h : t.find? type = none)
      (hfind : ∀ key, t'.find? key = if key = type then some routine else t.find? key) :
      Outcome t (.attach type routine) (t', .ok ())
  | occupied {type : UInt16} {routine : Routine} (h : t.find? type ≠ none) :
      Outcome t (.attach type routine) (t, .error (.alreadyAttached type))
  | detached {type : UInt16} {t' : HandlerTable} (h : t.find? type ≠ none)
      (hfind : ∀ key, t'.find? key = if key = type then none else t.find? key) :
      Outcome t (.detach type) (t', .ok ())
  | vacant {type : UInt16} (h : t.find? type = none) :
      Outcome t (.detach type) (t, .error (.notAttached type))
  | reset : Outcome t .reset (.empty, .ok ())

theorem call_outcome (t : HandlerTable) (k : TableCall) : t.Outcome k (t.call k) := by
  cases k with
  | attach type routine =>
    by_cases h : t.find? type = none
    · have hattach : t.attach type routine =
          .ok ⟨(type, routine) :: t.entries, List.nodup_cons.2 ⟨find?_eq_none_iff.1 h, t.nodup⟩⟩ :=
        dif_pos h
      simp only [call, hattach]
      exact .attached h fun key => (find?_attach hattach key).2
    · have hattach : t.attach type routine = .error (.alreadyAttached type) := dif_neg h
      simp only [call, hattach]
      exact .occupied h
  | detach type =>
    by_cases h : t.find? type = none
    · have hdetach : t.detach type = .error (.notAttached type) := if_pos h
      simp only [call, hdetach]
      exact .vacant h
    · have hdetach : t.detach type = .ok ⟨t.entries.filter fun e => e.1 != type,
          t.nodup.sublist (List.filter_sublist.map _)⟩ := if_neg h
      simp only [call, hdetach]
      exact .detached h (find?_detach hdetach)
  | reset => exact .reset

/-- What a call makes of the handler under a key. -/
theorem find?_call (t : HandlerTable) (k : TableCall) (key : UInt16) :
    (t.call k).1.find? key = match k with
      | .attach type routine =>
        if key = type ∧ t.find? key = none then some routine else t.find? key
      | .detach type => if key = type then none else t.find? key
      | .reset => none := by
  have h := t.call_outcome k
  generalize t.call k = result at h ⊢
  cases h with
  | @attached type routine t' hnone hfind =>
    by_cases hkey : key = type
    · exact (hfind key).trans ((if_pos hkey).trans (if_pos ⟨hkey, hkey ▸ hnone⟩).symm)
    · exact (hfind key).trans ((if_neg hkey).trans (if_neg fun h => hkey h.1).symm)
  | occupied hsome =>
    refine (if_neg ?_).symm
    rintro ⟨rfl, hnone⟩
    exact hsome hnone
  | detached _ hfind => exact hfind key
  | @vacant type hnone =>
    by_cases hkey : key = type
    · exact (hkey ▸ hnone).trans (if_pos hkey).symm
    · exact (if_neg hkey).symm
  | reset => rfl

/-- Attaching is refused just if the type has a handler, and detaching just if it has none. -/
theorem call_answer (t : HandlerTable) (k : TableCall) :
    (t.call k).2 = match k with
      | .attach type _ =>
        if (t.find? type).isSome then .error (.alreadyAttached type) else .ok ()
      | .detach type => if (t.find? type).isSome then .ok () else .error (.notAttached type)
      | .reset => .ok () := by
  have h := t.call_outcome k
  generalize t.call k = result at h ⊢
  cases h with
  | attached hnone | vacant hnone => simp [hnone]
  | occupied hsome | detached hsome => simp [Option.isSome_iff_ne_none, hsome]
  | reset => rfl

/-- A call that is refused changes nothing. -/
theorem call_of_error {k : TableCall} {fault : HandlerFault} (h : (t.call k).2 = .error fault) :
    (t.call k).1 = t := by
  have hout := t.call_outcome k
  generalize t.call k = result at h hout ⊢
  cases hout with
  | attached | detached | reset => cases h
  | occupied | vacant => rfl

end HandlerTable

/-! ## What the calls leave behind -/

namespace TableEntry

/-- The routine was attached to the key. -/
def Attaches (key : UInt16) (routine : Routine) (e : TableEntry) : Prop :=
  e = ⟨.attach key routine, .ok ()⟩

/-- Whatever was attached to the key was taken away. -/
def Clears (key : UInt16) (e : TableEntry) : Prop :=
  e = ⟨.detach key, .ok ()⟩ ∨ e.call = .reset

/-- The routine was the last to be attached to the key, and nothing later has cleared the key. -/
def Stands (log : List TableEntry) (key : UInt16) (routine : Routine) : Prop :=
  ∃ earlier e later, log = earlier ++ e :: later ∧ e.Attaches key routine ∧
    ∀ l ∈ later, (∀ other, ¬ l.Attaches key other) ∧ ¬ l.Clears key

variable {key : UInt16} {routine : Routine}

theorem not_stands_nil : ¬ Stands [] key routine := by
  rintro ⟨earlier, e, later, h, -⟩
  cases earlier <;> cases h

/-- What stands after one more entry was attached by it, or stood before and was left alone. -/
theorem stands_snoc {log : List TableEntry} {e : TableEntry} :
    Stands (log ++ [e]) key routine ↔
      e.Attaches key routine ∨
        Stands log key routine ∧ (∀ other, ¬ e.Attaches key other) ∧ ¬ e.Clears key := by
  constructor
  · rintro ⟨earlier, a, later, hlog, ha, hlater⟩
    rcases List.eq_nil_or_concat later with rfl | ⟨later, l, rfl⟩
    · obtain ⟨-, hlast⟩ := List.append_inj' hlog rfl
      cases hlast
      exact .inl ha
    · have hlog : log ++ [e] = (earlier ++ a :: later) ++ [l] := by simpa using hlog
      obtain ⟨rfl, hlast⟩ := List.append_inj' hlog rfl
      cases hlast
      refine .inr ⟨⟨earlier, a, later, rfl, ha, fun m hm => ?_⟩, ?_⟩
      · exact hlater m (by simp [hm])
      · exact hlater e (by simp)
  · rintro (ha | ⟨⟨earlier, a, later, rfl, ha, hlater⟩, hlast⟩)
    · exact ⟨log, e, [], rfl, ha, List.forall_mem_nil _⟩
    · refine ⟨earlier, a, later ++ [e], by simp, ha, ?_⟩
      intro m hm
      rcases List.mem_append.1 hm with hm | hm
      · exact hlater m hm
      · rw [List.mem_singleton.1 hm]
        exact hlast

end TableEntry

namespace HandlerTable

variable {t s : HandlerTable} {key : UInt16} {routine : Routine}

/-- A key has the routine after a call if the call attached it, or if it had it before and the call
left it alone. -/
theorem find?_call_eq_some_iff (t : HandlerTable) (k : TableCall) :
    (t.call k).1.find? key = some routine ↔
      TableEntry.Attaches key routine ⟨k, (t.call k).2⟩ ∨
        t.find? key = some routine ∧ (∀ other, ¬ TableEntry.Attaches key other ⟨k, (t.call k).2⟩) ∧
          ¬ TableEntry.Clears key ⟨k, (t.call k).2⟩ := by
  have h := t.call_outcome k
  generalize t.call k = result at h ⊢
  cases h with
  | @attached type other t' hnone hfind =>
    rw [hfind]
    by_cases hkey : key = type
    · subst hkey
      simp [TableEntry.Attaches, TableEntry.Clears, hnone]
    · simp [TableEntry.Attaches, TableEntry.Clears, hkey, Ne.symm hkey]
  | occupied => simp [TableEntry.Attaches, TableEntry.Clears]
  | @detached type t' hsome hfind =>
    rw [hfind]
    by_cases hkey : key = type
    · simp [TableEntry.Attaches, TableEntry.Clears, hkey]
    · simp [TableEntry.Attaches, TableEntry.Clears, hkey, Ne.symm hkey]
  | vacant => simp [TableEntry.Attaches, TableEntry.Clears]
  | reset => simp [TableEntry.Attaches, TableEntry.Clears, find?, empty]

theorem after_snoc (t : HandlerTable) (ks : List TableCall) (k : TableCall) :
    t.after (ks ++ [k]) = ((t.after ks).call k).1 := by
  induction ks generalizing t with
  | nil => rfl
  | cons _ ks ih => exact ih _

theorem log_snoc (t : HandlerTable) (ks : List TableCall) (k : TableCall) :
    t.log (ks ++ [k]) = t.log ks ++ [⟨k, ((t.after ks).call k).2⟩] := by
  induction ks generalizing t with
  | nil => rfl
  | cons _ ks ih => exact congrArg (_ :: ·) (ih _)

/-- What is found is what stands. -/
theorem find?_after_iff (ks : List TableCall) :
    (empty.after ks).find? key = some routine ↔ TableEntry.Stands (empty.log ks) key routine := by
  induction ks using List.reverseRecOn generalizing routine with
  | nil => exact iff_of_false (by rintro ⟨⟩) TableEntry.not_stands_nil
  | append_singleton ks k ih =>
    rw [after_snoc, log_snoc, TableEntry.stands_snoc, find?_call_eq_some_iff, ih]

/-! ## Calls about other keys -/

theorem find?_call_of_not_concerns {k : TableCall} (h : k.concerns key = false) :
    (t.call k).1.find? key = t.find? key := by
  rw [find?_call]
  cases k with
  | attach type routine => exact if_neg fun hkey => beq_eq_false_iff_ne.1 h hkey.1.symm
  | detach type => exact if_neg fun hkey => beq_eq_false_iff_ne.1 h hkey.symm
  | reset => cases h

/-- Tables that agree on a key answer alike what is about the key, and go on agreeing on it. -/
theorem call_congr {k : TableCall} (hk : k.concerns key = true) (h : t.find? key = s.find? key) :
    (t.call k).1.find? key = (s.call k).1.find? key ∧ (t.call k).2 = (s.call k).2 := by
  rw [find?_call, find?_call, call_answer, call_answer]
  cases k with
  | attach type routine | detach type =>
    obtain rfl := beq_iff_eq.1 hk
    simp only [h, and_self]
  | reset => exact ⟨rfl, rfl⟩

/-- The calls about other keys can be left out. -/
theorem run_filter (h : t.find? key = s.find? key) (ks : List TableCall) :
    (t.after ks).find? key = (s.after (ks.filter (TableCall.concerns key))).find? key ∧
      (t.log ks).filter (fun e => e.call.concerns key) =
        s.log (ks.filter (TableCall.concerns key)) := by
  induction ks generalizing t s with
  | nil => exact ⟨h, rfl⟩
  | cons k ks ih =>
    cases hk : k.concerns key with
    | true =>
      obtain ⟨hfind, hanswer⟩ := call_congr hk h
      obtain ⟨hafter, hlog⟩ := ih hfind
      rw [List.filter_cons_of_pos hk]
      refine ⟨hafter, ?_⟩
      simp only [log, List.filter_cons, hk, if_true, hlog, hanswer]
    | false =>
      obtain ⟨hafter, hlog⟩ := ih ((find?_call_of_not_concerns hk).trans h)
      rw [List.filter_cons_of_neg (by simp [hk])]
      refine ⟨hafter, ?_⟩
      simpa only [log, List.filter_cons, hk, Bool.false_eq_true, if_false] using hlog

/-! ## Finite maps -/

/-- Whatever was called before, beginning with an empty table: a key has the routine that was
attached to it last, unless it was cleared later. Attaching fails just if there is a handler, be it
the null routine, and detaching just if there is none. A call that fails changes nothing. The size
is the number of keys with a handler. What is found under a key, and how the calls about it are
answered, does not depend on the calls about others. -/
theorem table_is_finite_map (ks : List TableCall) :
    let t := empty.after ks
    (∀ key routine, t.find? key = some routine ↔ TableEntry.Stands (empty.log ks) key routine) ∧
      (∀ key, t.find? key = none ↔ ∀ routine, ¬ TableEntry.Stands (empty.log ks) key routine) ∧
      (∀ type routine, (t.call (.attach type routine)).2 =
        if (t.find? type).isSome then .error (.alreadyAttached type) else .ok ()) ∧
      (∀ type, (t.call (.detach type)).2 =
        if (t.find? type).isSome then .ok () else .error (.notAttached type)) ∧
      (∀ k fault, (t.call k).2 = .error fault → (t.call k).1 = t) ∧
      (∃ keys : Finset UInt16, (∀ key, key ∈ keys ↔ (t.find? key).isSome) ∧ t.size = keys.card) ∧
      ∀ key, let own := ks.filter (TableCall.concerns key)
        t.find? key = (empty.after own).find? key ∧
          (empty.log ks).filter (fun e => e.call.concerns key) = empty.log own := by
  intro t
  refine ⟨fun key routine => find?_after_iff ks, fun key => ?_,
    fun type routine => t.call_answer (.attach type routine),
    fun type => t.call_answer (.detach type), fun k fault => call_of_error,
    ⟨t.keys, fun key => mem_keys, t.card_keys.symm⟩, fun key => run_filter rfl ks⟩
  simp only [Option.eq_none_iff_forall_ne_some, ← find?_after_iff, ne_eq, t]

end HandlerTable
end GuestNic
