import Mathlib.Data.List.Basic

/-! # State machines

A state machine is a partial step function: `step s a` is the state after action
`a`, and `none` when the machine cannot take that action in `s`.  Threads that
take turns are one machine, whose actions say whose turn it is.

`Reachable.invariant` is the induction over runs.  For a property that a machine
only keeps when its steps meet a condition, `always_iff_eachStep` turns two facts
about one step into the exact statement about a whole run: the property holds in
every state of the run exactly when every step of it meets the condition. -/
namespace StateMachine

variable {σ α : Type} (step : σ → α → Option σ)

/-- The state after a list of actions. -/
def run (s : σ) : List α → Option σ
  | [] => some s
  | a :: as => (step s a).bind fun s' => run s' as

/-- Some run leads from `init` to `s`. -/
def Reachable (init s : σ) : Prop := ∃ as, run step init as = some s

theorem run_cons_eq_some {s t : σ} {a : α} {as : List α} :
    run step s (a :: as) = some t ↔ ∃ s', step s a = some s' ∧ run step s' as = some t := by
  simp [run, Option.bind_eq_some_iff]

theorem run_append (s : σ) (as bs : List α) :
    run step s (as ++ bs) = (run step s as).bind fun t => run step t bs := by
  induction as generalizing s with
  | nil => rfl
  | cons a as ih => simp [run, ih, Option.bind_assoc]

variable {step}

/-- What a run leads to from a reachable state is reachable. -/
theorem Reachable.run {init s t : σ} (h : Reachable step init s) {as : List α}
    (ht : run step s as = some t) : Reachable step init t := by
  obtain ⟨bs, hbs⟩ := h
  exact ⟨bs ++ as, by rw [run_append, hbs, Option.bind_some, ht]⟩

/-- What every step keeps, a run keeps. -/
theorem run_invariant {P : σ → Prop} (hstep : ∀ {s a s'}, P s → step s a = some s' → P s')
    {s t : σ} (hs : P s) {as : List α} (h : run step s as = some t) : P t := by
  induction as generalizing s with
  | nil => exact Option.some.inj h ▸ hs
  | cons a as ih =>
    obtain ⟨s', hs', hrest⟩ := (run_cons_eq_some step).mp h
    exact ih (hstep hs hs') hrest

/-- **Invariants hold in every reachable state.** -/
theorem Reachable.invariant {P : σ → Prop}
    (hstep : ∀ {s a s'}, P s → step s a = some s' → P s') {init s : σ} (hinit : P init)
    (h : Reachable step init s) : P s := by
  obtain ⟨as, has⟩ := h
  exact run_invariant hstep hinit has

/-- **Steps that lower a measure are few**: in a run whose other steps do not raise it, they
are no more than it was at first. -/
theorem run_countP_le {Inv : σ → Prop} {m : σ → Nat} {own A : α → Prop} [DecidablePred own]
    (hkeep : ∀ {s a s'}, Inv s → step s a = some s' → Inv s')
    (hown : ∀ {s a s'}, Inv s → own a → step s a = some s' → m s' < m s)
    (hother : ∀ {s a s'}, Inv s → A a → step s a = some s' → m s' ≤ m s)
    {s t : σ} (hs : Inv s) {as : List α} (has : ∀ a ∈ as, A a) (h : run step s as = some t) :
    as.countP (fun a => own a) + m t ≤ m s := by
  induction as generalizing s with
  | nil =>
    obtain rfl := Option.some.inj h
    simp
  | cons a as ih =>
    obtain ⟨s', hs', hrest⟩ := (run_cons_eq_some step).mp h
    have hle := ih (hkeep hs hs') (fun b hb => has b (List.mem_cons_of_mem _ hb)) hrest
    rw [List.countP_cons]
    by_cases ha : own a
    · have hlt := hown hs ha hs'
      simp only [ha, decide_true, if_true]
      omega
    · have hle' := hother hs (has a List.mem_cons_self) hs'
      simp only [ha, decide_false, Bool.false_eq_true, if_false]
      omega

/-- **A machine that can bring a measure down** can bring it down to nothing, in as many steps
as it is at first. -/
theorem exists_run_of_measure {Inv : σ → Prop} {A : α → Prop} {m : σ → Nat}
    (hstep : ∀ {s}, Inv s → 0 < m s → ∃ a s', A a ∧ step s a = some s' ∧ Inv s' ∧ m s' < m s)
    {s : σ} (hs : Inv s) : ∃ as t, (∀ a ∈ as, A a) ∧ run step s as = some t ∧ Inv t ∧ m t = 0 ∧
      as.length ≤ m s := by
  induction hm : m s using Nat.strongRecOn generalizing s with
  | ind n ih =>
    by_cases hzero : m s = 0
    · exact ⟨[], s, by simp, rfl, hs, hzero, Nat.zero_le n⟩
    · obtain ⟨a, s', ha, hs', hinv, hlt⟩ := hstep hs (Nat.pos_of_ne_zero hzero)
      obtain ⟨as, t, has, hrun, ht, hend, hle⟩ := ih (m s') (hm ▸ hlt) hinv rfl
      refine ⟨a :: as, t, ?_, (run_cons_eq_some step).mpr ⟨s', hs', hrun⟩, ht, hend, ?_⟩
      · exact List.forall_mem_cons.mpr ⟨ha, has⟩
      · rw [List.length_cons]
        omega

/-- **A machine seen through a function**: where each step is a step of another machine on
what is seen, or neither machine can take it, a run is a run of the other. -/
theorem run_map {τ : Type} {step' : τ → α → Option τ} {abs : σ → τ} {Inv : σ → Prop}
    (hstep : ∀ {s} a, Inv s → (step s a).map abs = step' (abs s) a)
    (hkeep : ∀ {s a s'}, Inv s → step s a = some s' → Inv s') {s : σ} (hs : Inv s)
    (as : List α) : (run step s as).map abs = run step' (abs s) as := by
  induction as generalizing s with
  | nil => rfl
  | cons a as ih =>
    simp only [run, ← hstep a hs]
    cases ha : step s a with
    | none => rfl
    | some s' => exact ih (hkeep hs ha)

variable (step)

/-- The machine with a record of what its steps were. -/
def recording {ω : Type} (event : σ → α → List ω) : σ × List ω → α → Option (σ × List ω) :=
  fun r a => (step r.1 a).map fun s' => (s', r.2 ++ event r.1 a)

variable {step}

/-- **What every step keeps of the state and the record**, a recorded run keeps. -/
theorem run_recording {ω : Type} {event : σ → α → List ω} {P : σ → List ω → Prop}
    (hstep : ∀ {s l a t}, P s l → step s a = some t → P t (l ++ event s a))
    {init : σ} (hinit : P init []) {r : σ × List ω} {as : List α}
    (h : run (recording step event) (init, []) as = some r) : P r.1 r.2 := by
  refine run_invariant (P := fun r => P r.1 r.2) (fun {r a r'} hr hrec => ?_) hinit h
  obtain ⟨t, ht, rfl⟩ := Option.map_eq_some_iff.mp hrec
  exact hstep hr ht

/-- A recorded run is a run. -/
theorem run_of_recording {ω : Type} {event : σ → α → List ω} {r r' : σ × List ω} {as : List α}
    (h : run (recording step event) r as = some r') : run step r.1 as = some r'.1 := by
  have hone : ∀ {r : σ × List ω} (a : α), True →
      (recording step event r a).map Prod.fst = step r.1 a := by
    intro r a _
    rw [recording, Option.map_map]
    exact Option.map_id'
  rw [← run_map hone (fun _ _ => trivial) trivial as, h, Option.map_some]

variable (step)

/-- `P` holds in every state of the run, the first and the last included. -/
def Always (P : σ → Prop) : σ → List α → Prop
  | s, [] => P s
  | s, a :: as => P s ∧ ∀ s', step s a = some s' → Always P s' as

/-- Every step of the run meets `C`. -/
def EachStep (C : σ → α → Prop) : σ → List α → Prop
  | _, [] => True
  | s, a :: as => ∀ s', step s a = some s' → C s a ∧ EachStep C s' as

variable {step}

theorem Always.head {P : σ → Prop} {s : σ} {as : List α} (h : Always step P s as) : P s := by
  cases as with
  | nil => exact h
  | cons a as => exact h.1

theorem Always.of_run {P : σ → Prop} {s t : σ} {as : List α} (h : Always step P s as)
    (hrun : run step s as = some t) : P t := by
  induction as generalizing s with
  | nil => exact Option.some.inj hrun ▸ h
  | cons a as ih =>
    obtain ⟨s', hs', hrest⟩ := (run_cons_eq_some step).mp hrun
    exact ih (h.2 s' hs') hrest

/-- A run whose steps meet `C`, one step longer. -/
theorem EachStep.cons {C : σ → α → Prop} {s s' : σ} {a : α} {as : List α} (hC : C s a)
    (hs : step s a = some s') (h : EachStep step C s' as) : EachStep step C s (a :: as) := by
  intro t ht
  obtain rfl := Option.some.inj (hs.symm.trans ht)
  exact ⟨hC, h⟩

/-- What an action meets in every state. -/
theorem EachStep.of_forall {C : σ → α → Prop} {as : List α} (h : ∀ a ∈ as, ∀ s, C s a) (s : σ) :
    EachStep step C s as := by
  induction as generalizing s with
  | nil => trivial
  | cons a as ih =>
    exact fun t _ => ⟨h a List.mem_cons_self s, ih (fun b hb => h b (List.mem_cons_of_mem _ hb)) t⟩

/-- A run that nothing is recorded of. -/
theorem run_recording_of_silent {ω : Type} {event : σ → α → List ω} {s t : σ} {as : List α}
    (hsilent : ∀ a ∈ as, ∀ s, event s a = []) (l : List ω) (h : run step s as = some t) :
    run (recording step event) (s, l) as = some (t, l) := by
  induction as generalizing s with
  | nil => exact congrArg (fun x => some (x, l)) (Option.some.inj h)
  | cons a as ih =>
    obtain ⟨s', hs', hrest⟩ := (run_cons_eq_some step).mp h
    have hone : recording step event (s, l) a = some (s', l) := by
      simp [recording, hs', hsilent a List.mem_cons_self]
    exact (run_cons_eq_some _).mpr
      ⟨_, hone, ih (fun b hb => hsilent b (List.mem_cons_of_mem _ hb)) hrest⟩

/-- A run whose steps meet `C`, and another behind it. -/
theorem EachStep.append {C : σ → α → Prop} {s t : σ} {as bs : List α} (h : EachStep step C s as)
    (hrun : run step s as = some t) (h' : EachStep step C t bs) :
    EachStep step C s (as ++ bs) := by
  induction as generalizing s with
  | nil => exact Option.some.inj hrun ▸ h'
  | cons a as ih =>
    intro s' hs'
    obtain ⟨hC, hrest⟩ := h s' hs'
    obtain ⟨u, hu, hrun'⟩ := (run_cons_eq_some step).mp hrun
    obtain rfl := Option.some.inj (hs'.symm.trans hu)
    exact ⟨hC, ih hrest hrun'⟩

/-- The steps of a recorded run meet what the steps of the run meet. -/
theorem EachStep.recording {ω : Type} {event : σ → α → List ω} {C : σ → α → Prop} {s : σ}
    {as : List α} (h : EachStep step C s as) (l : List ω) :
    EachStep (recording step event) (fun r a => C r.1 a) (s, l) as := by
  induction as generalizing s l with
  | nil => trivial
  | cons a as ih =>
    intro r hr
    obtain ⟨t, ht, rfl⟩ := Option.map_eq_some_iff.mp hr
    obtain ⟨hC, hrest⟩ := h t ht
    exact ⟨hC, ih hrest _⟩

/-- Where an invariant makes two conditions the same, the steps of a run meet both or
neither. -/
theorem eachStep_congr {Inv : σ → Prop} {C D : σ → α → Prop}
    (hkeep : ∀ {s a s'}, Inv s → step s a = some s' → Inv s')
    (hiff : ∀ {s a s'}, Inv s → step s a = some s' → (C s a ↔ D s a)) {s : σ} (hs : Inv s)
    (as : List α) :
    EachStep step C s as ↔ EachStep step D s as := by
  induction as generalizing s with
  | nil => exact Iff.rfl
  | cons a as ih =>
    refine forall_congr' fun s' => forall_congr' fun hs' => ?_
    rw [hiff hs hs', ih (hkeep hs hs')]

/-- What steps that meet `C` keep between the state and a fold over the actions, a
run whose steps meet `C` keeps. -/
theorem run_foldl {β : Type} {add : β → α → β} {R : σ → β → Prop} {C : σ → α → Prop}
    (hstep : ∀ {s b a s'}, R s b → C s a → step s a = some s' → R s' (add b a))
    {s t : σ} {b : β} (hs : R s b) {as : List α} (h : EachStep step C s as)
    (hrun : run step s as = some t) : R t (as.foldl add b) := by
  induction as generalizing s b with
  | nil => exact Option.some.inj hrun ▸ hs
  | cons a as ih =>
    obtain ⟨s', hs', hrest⟩ := (run_cons_eq_some step).mp hrun
    obtain ⟨hC, hsteps⟩ := h s' hs'
    exact ih (hstep hs hC hs') hsteps hrest

/-- What steps that meet `C` keep holds all along a run whose steps meet `C`. -/
theorem always_of_eachStep {Inv P : σ → Prop} {C : σ → α → Prop} (hP : ∀ {s}, Inv s → P s)
    (hstep : ∀ {s a s'}, Inv s → C s a → step s a = some s' → Inv s') {s : σ} (hs : Inv s)
    {as : List α} (h : EachStep step C s as) : Always step P s as := by
  induction as generalizing s with
  | nil => exact hP hs
  | cons a as ih =>
    refine ⟨hP hs, fun s' hs' => ?_⟩
    obtain ⟨hC, hrest⟩ := h s' hs'
    exact ih (hstep hs hC hs') hrest

/-- **A property with a condition**: if steps that meet `C` keep `Inv`, if `Inv`
gives `P`, and if a step that misses `C` ends outside `P`, then `P` holds all
along a run exactly when all its steps meet `C`. -/
theorem always_iff_eachStep {Inv P : σ → Prop} {C : σ → α → Prop} (hP : ∀ {s}, Inv s → P s)
    (hstep : ∀ {s a s'}, Inv s → C s a → step s a = some s' → Inv s')
    (hmiss : ∀ {s a s'}, Inv s → ¬ C s a → step s a = some s' → ¬ P s')
    {s : σ} (hs : Inv s) (as : List α) : Always step P s as ↔ EachStep step C s as := by
  refine ⟨fun h => ?_, always_of_eachStep hP hstep hs⟩
  induction as generalizing s with
  | nil => trivial
  | cons a as ih =>
    intro s' hs'
    have hC : C s a := by
      by_contra hC
      exact hmiss hs hC hs' (h.2 s' hs').head
    exact ⟨hC, ih (hstep hs hC hs') (h.2 s' hs')⟩

end StateMachine
