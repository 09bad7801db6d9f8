import CameraController.Streaming
import Mathlib.Data.List.Flatten

/-! # Streams of which elements get lost

A stream is made of blocks, and a reader gets some of its elements, in order:
with each its position in the stream, what it gets is a sublist of
`blocks.flatten.zipIdx`.

A transducer that emits one output for a whole block emits, on what the reader
gets, a sublist of the outputs of the blocks, as long as each block comes whole, in
a part that it skips, or, at the very end, cut short or in a part that it emits
nothing for (`feed_covered`). -/
namespace LossyStream

open Streaming

variable {α σ ω : Type}

/-- The elements of `c` at the positions from `lo` to `hi`. -/
def within (lo hi : Nat) (c : List (α × Nat)) : List α :=
  (c.filter fun x => lo ≤ x.2 && x.2 < hi).map Prod.fst

theorem within_append (lo hi : Nat) (c c' : List (α × Nat)) :
    within lo hi (c ++ c') = within lo hi c ++ within lo hi c' := by
  simp [within]

theorem within_eq_map {lo hi : Nat} {c : List (α × Nat)} (h : ∀ x ∈ c, lo ≤ x.2 ∧ x.2 < hi) :
    within lo hi c = c.map Prod.fst := by
  rw [within, List.filter_eq_self.mpr fun x hx => by simpa using h x hx]

theorem within_eq_nil {lo hi : Nat} {c : List (α × Nat)} (h : ∀ x ∈ c, x.2 < lo ∨ hi ≤ x.2) :
    within lo hi c = [] := by
  rw [within, List.filter_eq_nil_iff.mpr, List.map_nil]
  intro x hx
  have := h x hx
  simp
  omega

/-- What is got in between, between what comes before and what comes behind. -/
theorem within_middle {lo hi : Nat} {old part rest : List (α × Nat)}
    (hold : ∀ x ∈ old, x.2 < lo) (hpart : ∀ x ∈ part, lo ≤ x.2 ∧ x.2 < hi)
    (hrest : ∀ x ∈ rest, hi ≤ x.2) : within lo hi (old ++ (part ++ rest)) = part.map Prod.fst := by
  rw [within_append, within_append, within_eq_nil fun x hx => Or.inl (hold x hx),
    within_eq_map hpart, within_eq_nil fun x hx => Or.inr (hrest x hx), List.nil_append,
    List.append_nil]

theorem positions {c : List (α × Nat)} {l : List α} {s : Nat} (h : c.Sublist (l.zipIdx s)) :
    ∀ x ∈ c, s ≤ x.2 ∧ x.2 < s + l.length := fun _ hx =>
  ⟨List.le_snd_of_mem_zipIdx (h.subset hx), List.snd_lt_add_of_mem_zipIdx (h.subset hx)⟩

/-- Each block comes whole, in a part of which `Skipped` holds, or, with nothing behind it,
as a beginning or in a part of which `Silent` holds. -/
def Covered (Skipped Silent : List α → Prop) (blocks : List (List α)) (c : List (α × Nat)) :
    Prop :=
  ∀ before f after, blocks = before ++ f :: after →
    let start := before.flatten.length
    let part := within start (start + f.length) c
    part = f ∨ Skipped part ∨ (part <+: f ∨ Silent part) ∧ ∀ x ∈ c, x.2 < start + f.length

/-- **A reader that got all there was, up to some position, got it covered.** -/
theorem covered_of_prefix {Skipped Silent : List α → Prop} {blocks : List (List α)}
    {c : List (α × Nat)} (hc : c <+: blocks.flatten.zipIdx) : Covered Skipped Silent blocks c := by
  rintro before f after rfl
  rw [List.prefix_iff_eq_take] at hc
  obtain ⟨n, hn⟩ : ∃ n, n = c.length - before.flatten.length := ⟨_, rfl⟩
  -- what was got of the blocks before, of `f`, and of the blocks behind it
  rw [List.flatten_append, List.flatten_cons, List.zipIdx_append, List.zipIdx_append,
    List.take_append, List.take_append, List.length_zipIdx, List.length_zipIdx, Nat.zero_add,
    ← hn] at hc
  have hold := positions ((before.flatten.zipIdx).take_sublist c.length)
  have hin := positions ((f.zipIdx before.flatten.length).take_sublist n)
  have hbehind := positions
    ((after.flatten.zipIdx (before.flatten.length + f.length)).take_sublist (n - f.length))
  have hpart : within before.flatten.length (before.flatten.length + f.length) c = f.take n := by
    rw [hc, within_middle (fun x hx => by have := hold x hx; omega) hin
      (fun x hx => (hbehind x hx).1), List.map_take, List.zipIdx_map_fst]
  simp only [hpart]
  by_cases hfull : f.length ≤ n
  · exact Or.inl (List.take_of_length_le hfull)
  · refine Or.inr (Or.inr ⟨Or.inl (List.take_prefix _ _), fun x hx => ?_⟩)
    rw [hc, show n - f.length = 0 by omega, List.take_zero, List.append_nil] at hx
    rcases List.mem_append.mp hx with hx | hx
    · have := hold x hx
      omega
    · exact (hin x hx).2

section Transducer
variable (step : σ → α → σ × List ω) (AtRest : σ → Prop) (out : List α → ω)
  {Skipped Silent : List α → Prop} {blocks : List (List α)}

/-- A beginning of a block emits its output or nothing. -/
theorem feed_beginning {s : σ} {f part : List α} (hpart : part <+: f)
    (hblock : (feed step s f).2 = [out f]) : ((feed step s part).2).Sublist [out f] := by
  obtain ⟨rest, rfl⟩ := hpart
  rw [← hblock, feed_append]
  exact List.sublist_append_left _ _

/-- The induction over the blocks still to come: what was got so far leaves the
transducer at rest. -/
theorem feed_covered_from
    (hblock : ∀ s, AtRest s → ∀ f ∈ blocks,
      AtRest (feed step s f).1 ∧ (feed step s f).2 = [out f])
    (hskip : ∀ s, AtRest s → ∀ l, Skipped l →
      AtRest (feed step s l).1 ∧ (feed step s l).2 = [])
    (hsilent : ∀ s, AtRest s → ∀ l, Silent l → (feed step s l).2 = [])
    {c : List (α × Nat)} (hcover : Covered Skipped Silent blocks c) :
    ∀ (after before : List (List α)) (old new : List (α × Nat)) (s : σ),
      blocks = before ++ after → c = old ++ new →
      (∀ x ∈ old, x.2 < before.flatten.length) →
      new.Sublist (after.flatten.zipIdx before.flatten.length) → AtRest s →
      ((feed step s (new.map Prod.fst)).2).Sublist (after.map out) := by
  intro after
  induction after with
  | nil =>
    intro before old new s _ _ _ hnew _
    rw [List.flatten_nil, List.zipIdx_nil, List.sublist_nil] at hnew
    simp [hnew]
  | cons f after ih =>
    intro before old new s hblocks hc hold hnew hs
    rw [List.flatten_cons, List.zipIdx_append, List.sublist_append_iff] at hnew
    obtain ⟨part, rest, rfl, hpart, hrest⟩ := hnew
    have hin := positions hpart
    have hbehind := positions hrest
    have hwithin : within before.flatten.length (before.flatten.length + f.length) c =
        part.map Prod.fst := by
      rw [hc, within_middle hold hin fun x hx => (hbehind x hx).1]
    -- what is left for `after`, whichever state at rest the part leads to
    have hnext : ∀ t, AtRest t →
        ((feed step t (rest.map Prod.fst)).2).Sublist (after.map out) := by
      intro t ht
      refine ih (before ++ [f]) (old ++ part) rest t (by simp [hblocks]) (by simp [hc]) ?_
        (by simpa using hrest) ht
      intro x hx
      rw [List.flatten_append, List.length_append, List.flatten_singleton]
      rcases List.mem_append.mp hx with hx | hx
      · exact Nat.lt_of_lt_of_le (hold x hx) (Nat.le_add_right _ _)
      · exact (hin x hx).2
    rw [List.map_append, feed_append, List.map_cons]
    have hf := hcover before f after hblocks
    simp only [hwithin] at hf
    rcases hf with hwhole | hskipped | ⟨hend, hlast⟩
    · obtain ⟨hrests, hout⟩ := hblock s hs f (by simp [hblocks])
      rw [hwhole, hout]
      exact (hnext _ hrests).cons_cons _
    · obtain ⟨hrests, hout⟩ := hskip s hs _ hskipped
      rw [hout]
      exact (hnext _ hrests).cons _
    · have hnil : rest = [] := by
        refine List.eq_nil_iff_forall_not_mem.mpr fun x hx => ?_
        have hlt := hlast x (by simp [hc, hx])
        have hge := (hbehind x hx).1
        omega
      rw [hnil, List.map_nil, feed_nil, List.append_nil]
      rcases hend with hbegin | hquiet
      · have hone := feed_beginning step out hbegin (hblock s hs f (by simp [hblocks])).2
        exact hone.trans (List.singleton_sublist.mpr (by simp))
      · rw [hsilent s hs _ hquiet]
        exact List.nil_sublist _

/-- **Blocks got whole, skipped or last emit a sublist of the outputs.** -/
theorem feed_covered
    (hblock : ∀ s, AtRest s → ∀ f ∈ blocks,
      AtRest (feed step s f).1 ∧ (feed step s f).2 = [out f])
    (hskip : ∀ s, AtRest s → ∀ l, Skipped l →
      AtRest (feed step s l).1 ∧ (feed step s l).2 = [])
    (hsilent : ∀ s, AtRest s → ∀ l, Silent l → (feed step s l).2 = [])
    {c : List (α × Nat)} (hc : c.Sublist blocks.flatten.zipIdx)
    (hcover : Covered Skipped Silent blocks c) {s : σ} (hs : AtRest s) :
    ((feed step s (c.map Prod.fst)).2).Sublist (blocks.map out) :=
  feed_covered_from step AtRest out hblock hskip hsilent hcover blocks [] [] c s rfl rfl (by simp)
    (by simpa using hc) hs

end Transducer

end LossyStream
