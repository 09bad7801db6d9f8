import CameraController.StateMachine
import Mathlib.Data.Finset.Max
import Mathlib.Data.Finset.Dedup
import Mathlib.Order.Basic
import Mathlib.Algebra.Ring.Nat

/-! # Locks taken in an order

Threads share locks.  A thread is a script: it locks and unlocks, uses what a lock
guards, and pauses for as long as the outside likes.  A script is `Ordered` when a
lock is taken only while all locks held stand before it, when a lock is used and
unlocked only while it is held, and when nothing is held where the thread pauses.

Threads with ordered scripts never use what a lock guards at the same time
(`Orderly.use_unique`), and none of them waits for a lock in vain: threads that hold
locks can always go on until it is free (`Orderly.exists_free`). -/
namespace LockOrder

open StateMachine

/-- What a thread does next. -/
inductive Op (μ : Type) where
  | lock (m : μ)
  | unlock (m : μ)
  /-- It uses what the lock guards. -/
  | use (m : μ)
  /-- It waits for something other than a lock. -/
  | pause
  deriving DecidableEq, Repr

/-- The locks a thread holds, and what it still has to do. -/
structure Thread (μ : Type) where
  held : List μ
  script : List (Op μ)
  deriving DecidableEq, Repr

variable {μ : Type}

/-- No thread holds the lock. -/
def Free (s : List (Thread μ)) (m : μ) : Prop := ∀ t ∈ s, m ∉ t.held

instance [DecidableEq μ] (s : List (Thread μ)) (m : μ) : Decidable (Free s m) :=
  inferInstanceAs (Decidable (∀ t ∈ s, m ∉ t.held))

section Steps
variable [DecidableEq μ]

/-- Thread `k` goes on.  A lock that is held, be it by the thread itself, is not
given, and one that is not held cannot be unlocked. -/
def step (s : List (Thread μ)) (k : Nat) : Option (List (Thread μ)) := do
  let t ← s[k]?
  match t.script with
  | [] => none
  | .lock m :: rest => if Free s m then some (s.set k ⟨m :: t.held, rest⟩) else none
  | .unlock m :: rest => if m ∈ t.held then some (s.set k ⟨t.held.erase m, rest⟩) else none
  | .use _ :: rest => some (s.set k ⟨t.held, rest⟩)
  | .pause :: rest => some (s.set k ⟨t.held, rest⟩)

/-- What a thread can do. -/
inductive Turn (s : List (Thread μ)) : Thread μ → Thread μ → Prop
  | locks {held : List μ} {m : μ} {rest : List (Op μ)} (hfree : Free s m) :
      Turn s ⟨held, .lock m :: rest⟩ ⟨m :: held, rest⟩
  | unlocks {held : List μ} {m : μ} {rest : List (Op μ)} (hheld : m ∈ held) :
      Turn s ⟨held, .unlock m :: rest⟩ ⟨held.erase m, rest⟩
  | uses {held : List μ} {m : μ} {rest : List (Op μ)} :
      Turn s ⟨held, .use m :: rest⟩ ⟨held, rest⟩
  | pauses {held : List μ} {rest : List (Op μ)} : Turn s ⟨held, .pause :: rest⟩ ⟨held, rest⟩

/-- **A step is a turn of one thread.** -/
theorem step_eq_some_iff {s s' : List (Thread μ)} {k : Nat} :
    step s k = some s' ↔ ∃ t t', s[k]? = some t ∧ Turn s t t' ∧ s' = s.set k t' := by
  constructor
  · intro h
    obtain ⟨⟨held, script⟩, ht, h⟩ := Option.bind_eq_some_iff.mp h
    rcases script with _ | ⟨⟨m⟩ | ⟨m⟩ | ⟨m⟩ | _, rest⟩
    · cases h
    · obtain ⟨hfree, h⟩ := Option.ite_none_right_eq_some.mp h
      exact ⟨_, _, ht, .locks hfree, (Option.some.inj h).symm⟩
    · obtain ⟨hheld, h⟩ := Option.ite_none_right_eq_some.mp h
      exact ⟨_, _, ht, .unlocks hheld, (Option.some.inj h).symm⟩
    · exact ⟨_, _, ht, .uses, (Option.some.inj h).symm⟩
    · exact ⟨_, _, ht, .pauses, (Option.some.inj h).symm⟩
  · rintro ⟨t, t', ht, hturn, rfl⟩
    rw [step, ht]
    cases hturn with
    | locks hfree => exact if_pos hfree
    | unlocks hheld => exact if_pos hheld
    | uses | pauses => rfl

end Steps

/-! ## Ordered scripts -/

section Ordered
variable [DecidableEq μ] {ι : Type} [LinearOrder ι] (rank : μ → ι)

/-- From these locks on, the script takes locks in order and keeps none. -/
def Ordered : List μ → List (Op μ) → Prop
  | held, [] => held = []
  | held, .lock m :: rest => (∀ l ∈ held, rank l < rank m) ∧ Ordered (m :: held) rest
  | held, .unlock m :: rest => m ∈ held ∧ Ordered (held.erase m) rest
  | held, .use m :: rest => m ∈ held ∧ Ordered held rest
  | held, .pause :: rest => held = [] ∧ Ordered held rest

variable {rank}

/-- What is done while further locks are held, all of them before those it takes. -/
theorem Ordered.within {held outer : List μ} {body rest : List (Op μ)}
    (hbody : Ordered rank held body) (hpause : .pause ∉ body)
    (houter : ∀ m, .lock m ∈ body → ∀ l ∈ outer, rank l < rank m)
    (hrest : Ordered rank outer rest) : Ordered rank (held ++ outer) (body ++ rest) := by
  induction body generalizing held with
  | nil =>
    obtain rfl : held = [] := hbody
    exact hrest
  | cons op body ih =>
    have hpause' : .pause ∉ body := fun h => hpause (List.mem_cons_of_mem _ h)
    have houter' : ∀ m, .lock m ∈ body → ∀ l ∈ outer, rank l < rank m :=
      fun m h => houter m (List.mem_cons_of_mem _ h)
    cases op with
    | lock m =>
      refine ⟨fun l hl => ?_, ih hbody.2 hpause' houter'⟩
      rcases List.mem_append.mp hl with hl | hl
      · exact hbody.1 l hl
      · exact houter m List.mem_cons_self l hl
    | unlock m =>
      refine ⟨List.mem_append_left _ hbody.1, ?_⟩
      rw [List.erase_append_left _ hbody.1]
      exact ih hbody.2 hpause' houter'
    | use m => exact ⟨List.mem_append_left _ hbody.1, ih hbody.2 hpause' houter'⟩
    | pause => exact absurd List.mem_cons_self hpause

/-- One script after another. -/
theorem Ordered.append {held : List μ} {first rest : List (Op μ)} (hfirst : Ordered rank held first)
    (hrest : Ordered rank [] rest) : Ordered rank held (first ++ rest) := by
  induction first generalizing held with
  | nil =>
    obtain rfl : held = [] := hfirst
    exact hrest
  | cons op first ih =>
    cases op with
    | lock m | unlock m | use m | pause => exact ⟨hfirst.1, ih hfirst.2⟩

theorem ordered_flatMap {α : Type} {script : α → List (Op μ)} {l : List α}
    (h : ∀ a ∈ l, Ordered rank [] (script a)) : Ordered rank [] (l.flatMap script) := by
  induction l with
  | nil => rfl
  | cons a l ih =>
    rw [List.flatMap_cons]
    exact (h a List.mem_cons_self).append (ih fun b hb => h b (List.mem_cons_of_mem _ hb))

/-! ## What ordered threads keep -/

variable (rank) in
/-- The scripts are ordered, and a lock is held once, by one thread. -/
structure Orderly (s : List (Thread μ)) : Prop where
  ordered : ∀ t ∈ s, Ordered rank t.held t.script
  nodup : ∀ t ∈ s, t.held.Nodup
  exclusive : ∀ (k k' : Nat) (t t' : Thread μ) (m : μ), s[k]? = some t → s[k']? = some t' →
    m ∈ t.held → m ∈ t'.held → k = k'

/-- Threads that have done nothing yet. -/
def start (scripts : List (List (Op μ))) : List (Thread μ) := scripts.map fun ops => ⟨[], ops⟩

theorem start_orderly {scripts : List (List (Op μ))} (h : ∀ ops ∈ scripts, Ordered rank [] ops) :
    Orderly rank (start scripts) := by
  have hnone : ∀ t ∈ start scripts, t.held = [] ∧ Ordered rank t.held t.script := by
    intro t ht
    obtain ⟨ops, hops, rfl⟩ := List.mem_map.mp ht
    exact ⟨rfl, h ops hops⟩
  refine ⟨fun t ht => (hnone t ht).2, fun t ht => ?_, ?_⟩
  · rw [(hnone t ht).1]
    exact List.nodup_nil
  · intro k k' t t' m ht _ hm
    rw [(hnone t (List.mem_of_getElem? ht)).1] at hm
    cases hm

/-- What a turn leaves of the locks held. -/
theorem Turn.spec {s : List (Thread μ)} {t t' : Thread μ} (h : Turn s t t')
    (hordered : Ordered rank t.held t.script) (hnodup : t.held.Nodup) (hmem : t ∈ s) :
    Ordered rank t'.held t'.script ∧ t'.held.Nodup ∧
      (∀ m ∈ t'.held, m ∈ t.held ∨ Free s m) ∧ t'.script.length + 1 = t.script.length := by
  cases h with
  | locks hfree =>
    refine ⟨hordered.2, List.nodup_cons.mpr ⟨hfree _ hmem, hnodup⟩, fun l hl => ?_, rfl⟩
    rcases List.mem_cons.mp hl with rfl | hl
    · exact Or.inr hfree
    · exact Or.inl hl
  | unlocks =>
    exact ⟨hordered.2, hnodup.erase _, fun l hl => Or.inl (List.mem_of_mem_erase hl), rfl⟩
  | uses | pauses => exact ⟨hordered.2, hnodup, fun l hl => Or.inl hl, rfl⟩

/-- **Every step keeps the threads orderly.** -/
theorem Orderly.step {s s' : List (Thread μ)} {k : Nat} (hs : Orderly rank s)
    (h : step s k = some s') : Orderly rank s' := by
  obtain ⟨t, t', ht, hturn, rfl⟩ := step_eq_some_iff.mp h
  have hmem := List.mem_of_getElem? ht
  obtain ⟨hordered, hnodup, hheld, -⟩ := hturn.spec (hs.ordered t hmem) (hs.nodup t hmem) hmem
  have hkeep : ∀ u ∈ s.set k t', u ∈ s ∨ u = t' := fun u hu => List.mem_or_eq_of_mem_set hu
  -- a lock of the thread that took its turn was its own, or nobody's
  have hother : ∀ (j : Nat) (u : Thread μ) (m : μ), k ≠ j → s[j]? = some u → m ∈ t'.held →
      m ∉ u.held := by
    intro j u m hne hu hm hmu
    rcases hheld m hm with hm | hfree
    · exact hne (hs.exclusive k j t u m ht hu hm hmu)
    · exact hfree u (List.mem_of_getElem? hu) hmu
  have hlt := (List.getElem?_eq_some_iff.mp ht).1
  refine ⟨fun u hu => ?_, fun u hu => ?_, ?_⟩
  · rcases hkeep u hu with hu | rfl
    · exact hs.ordered u hu
    · exact hordered
  · rcases hkeep u hu with hu | rfl
    · exact hs.nodup u hu
    · exact hnodup
  · intro i j u u' m hu hu' hm hm'
    rw [List.getElem?_set] at hu hu'
    by_cases hi : k = i
    · by_cases hj : k = j
      · exact hi.symm.trans hj
      · rw [if_pos hi, if_pos (hi ▸ hlt)] at hu
        rw [if_neg hj] at hu'
        obtain rfl := Option.some.inj hu
        exact absurd hm' (hother j u' m hj hu' hm)
    · rw [if_neg hi] at hu
      by_cases hj : k = j
      · rw [if_pos hj, if_pos (hj ▸ hlt)] at hu'
        obtain rfl := Option.some.inj hu'
        exact absurd hm (hother i u m hi hu hm')
      · rw [if_neg hj] at hu'
        exact hs.exclusive i j u u' m hu hu' hm hm'

/-- **What a lock guards is used by one thread at a time.** -/
theorem Orderly.use_unique {s : List (Thread μ)} (hs : Orderly rank s) {k k' : Nat} {m : μ}
    {held held' : List μ} {rest rest' : List (Op μ)} (h : s[k]? = some ⟨held, .use m :: rest⟩)
    (h' : s[k']? = some ⟨held', .use m :: rest'⟩) : k = k' :=
  hs.exclusive k k' _ _ m h h' (hs.ordered _ (List.mem_of_getElem? h)).1
    (hs.ordered _ (List.mem_of_getElem? h')).1

/-- A thread that cannot go on is done, or waits for a lock of another thread. -/
theorem Orderly.blocked {s : List (Thread μ)} (hs : Orderly rank s) {k : Nat} {t : Thread μ}
    (ht : s[k]? = some t) (hnone : LockOrder.step s k = none) :
    t.script = [] ∨ ∃ m rest, t.script = .lock m :: rest ∧
      ∃ j u, j ≠ k ∧ s[j]? = some u ∧ m ∈ u.held := by
  have hordered := hs.ordered t (List.mem_of_getElem? ht)
  have hstuck : ∀ t', ¬ Turn s t t' := by
    intro t' hturn
    have hsome := step_eq_some_iff.mpr ⟨t, t', ht, hturn, rfl⟩
    rw [hnone] at hsome
    cases hsome
  obtain ⟨held, script⟩ := t
  rcases script with _ | ⟨⟨m⟩ | ⟨m⟩ | ⟨m⟩ | _, rest⟩
  · exact Or.inl rfl
  · right
    have hheld : ∃ u ∈ s, m ∈ u.held := by
      by_contra hfree
      refine hstuck _ (.locks fun u hu hmu => ?_)
      exact hfree ⟨u, hu, hmu⟩
    obtain ⟨u, hu, hmu⟩ := hheld
    obtain ⟨j, hj⟩ := List.mem_iff_getElem?.mp hu
    refine ⟨m, rest, rfl, j, u, ?_, hj, hmu⟩
    rintro rfl
    obtain rfl := Option.some.inj (hj.symm.trans ht)
    exact lt_irrefl _ (hordered.1 m hmu)
  · exact absurd (.unlocks hordered.1) (hstuck _)
  · exact absurd .uses (hstuck _)
  · exact absurd .pauses (hstuck _)

/-! ## Nobody waits in vain -/

/-- A thread that holds the last of the locks held can go on. -/
theorem Orderly.exists_step_of_last {s : List (Thread μ)} (hs : Orderly rank s) {j : Nat}
    {u : Thread μ} {l : μ} (hu : s[j]? = some u) (hl : l ∈ u.held)
    (hlast : ∀ m, rank l < rank m → Free s m) : ∃ s', LockOrder.step s j = some s' := by
  have hordered := hs.ordered u (List.mem_of_getElem? hu)
  obtain ⟨held, script⟩ := u
  rcases script with _ | ⟨⟨m⟩ | ⟨m⟩ | ⟨m⟩ | _, rest⟩
  · rw [show held = [] from hordered] at hl
    cases hl
  · have hfree := hlast m (hordered.1 l hl)
    exact ⟨_, step_eq_some_iff.mpr ⟨_, _, hu, .locks hfree, rfl⟩⟩
  · exact ⟨_, step_eq_some_iff.mpr ⟨_, _, hu, .unlocks hordered.1, rfl⟩⟩
  · exact ⟨_, step_eq_some_iff.mpr ⟨_, _, hu, .uses, rfl⟩⟩
  · rw [show held = [] from hordered.1] at hl
    cases hl

/-- A lock that is not free leads to a thread that can go on, and that waits for no
lock before it. -/
theorem Orderly.exists_mover {s : List (Thread μ)} (hs : Orderly rank s) {m : μ} (hm : ¬ Free s m) :
    ∃ j u l s', s[j]? = some u ∧ l ∈ u.held ∧ rank m ≤ rank l ∧ LockOrder.step s j = some s' := by
  have hheld : ∃ t ∈ s, m ∈ t.held := by
    simpa [Free] using hm
  obtain ⟨t, ht, hmt⟩ := hheld
  let behind := ((s.flatMap Thread.held).filter fun l => rank m ≤ rank l).toFinset
  have hmem : ∀ l, l ∈ behind ↔ (∃ u ∈ s, l ∈ u.held) ∧ rank m ≤ rank l := by
    intro l
    simp [behind]
  obtain ⟨l, hl, hmax⟩ := behind.exists_max_image rank ⟨m, (hmem m).mpr ⟨⟨t, ht, hmt⟩, le_rfl⟩⟩
  obtain ⟨⟨u, hus, hlu⟩, hle⟩ := (hmem l).mp hl
  obtain ⟨j, hj⟩ := List.mem_iff_getElem?.mp hus
  have hlast : ∀ m', rank l < rank m' → Free s m' := by
    intro m' hlt v hv hm'
    have hbehind := (hmem m').mpr ⟨⟨v, hv, hm'⟩, hle.trans hlt.le⟩
    exact absurd (hmax m' hbehind) (not_le.mpr hlt)
  obtain ⟨s', hs'⟩ := hs.exists_step_of_last hj hlu hlast
  exact ⟨j, u, l, s', hj, hlu, hle, hs'⟩

/-- All that the threads still have to do. -/
def remaining (s : List (Thread μ)) : Nat := (s.map fun t => t.script.length).sum

omit [DecidableEq μ] in
theorem remaining_set {s : List (Thread μ)} {k : Nat} {t t' : Thread μ} (ht : s[k]? = some t)
    (hlen : t'.script.length + 1 = t.script.length) :
    remaining (s.set k t') + 1 = remaining s := by
  induction s generalizing k with
  | nil => cases ht
  | cons u s ih =>
    cases k with
    | zero =>
      obtain rfl := Option.some.inj ht
      simp only [remaining, List.set_cons_zero, List.map_cons, List.sum_cons]
      omega
    | succ k =>
      have hrest := ih ht
      simp only [remaining, List.set_cons_succ, List.map_cons, List.sum_cons] at hrest ⊢
      omega

/-- The thread holds a lock. -/
def Holding (s : List (Thread μ)) (j : Nat) : Prop := ∃ u, s[j]? = some u ∧ u.held ≠ []

/-- **A thread that waits for a lock gets it**: after some steps of other threads, all
of them taken with a lock held, the lock is free. -/
theorem Orderly.exists_free {s : List (Thread μ)} (hs : Orderly rank s) {k : Nat} {m : μ}
    {held : List μ} {rest : List (Op μ)} (hk : s[k]? = some ⟨held, .lock m :: rest⟩) :
    ∃ ks s', run LockOrder.step s ks = some s' ∧ k ∉ ks ∧ EachStep LockOrder.step Holding s ks ∧
      Orderly rank s' ∧ s'[k]? = some ⟨held, .lock m :: rest⟩ ∧ Free s' m := by
  by_cases hfree : Free s m
  · exact ⟨[], s, rfl, List.not_mem_nil, trivial, hs, hk, hfree⟩
  obtain ⟨j, u, l, s₁, hu, hl, hle, hstep⟩ := hs.exists_mover hfree
  -- all locks that `k` holds stand before `m`
  have hjk : j ≠ k := by
    rintro rfl
    obtain rfl := Option.some.inj (hu.symm.trans hk)
    have hlt := (hs.ordered _ (List.mem_of_getElem? hk)).1 l hl
    exact absurd hle (not_le.mpr hlt)
  obtain ⟨u', v, hu', hturn, hset⟩ := step_eq_some_iff.mp hstep
  obtain rfl := Option.some.inj (hu.symm.trans hu')
  have hk₁ : s₁[k]? = some ⟨held, .lock m :: rest⟩ := by
    rw [hset, List.getElem?_set_ne hjk]
    exact hk
  have hmem := List.mem_of_getElem? hu
  have hlen := (hturn.spec (hs.ordered u hmem) (hs.nodup u hmem) hmem).2.2.2
  have hless : remaining s₁ < remaining s := by
    have hone := remaining_set hu hlen
    rw [hset]
    omega
  obtain ⟨ks, s', hrun, hnot, heach, hs', hk', hfree'⟩ := (hs.step hstep).exists_free hk₁
  have hholding : Holding s j := ⟨u, hu, List.ne_nil_of_mem hl⟩
  refine ⟨j :: ks, s', (run_cons_eq_some _).mpr ⟨s₁, hstep, hrun⟩, ?_, heach.cons hholding hstep,
    hs', hk', hfree'⟩
  rw [List.mem_cons, not_or]
  exact ⟨hjk.symm, hnot⟩
termination_by remaining s

end Ordered
end LockOrder
