import Mathlib.Data.List.Forall2
import Mathlib.Tactic.Common

/-! Rows of things that are compared: one by one, or without order. If the relation by which things are
compared is symmetric and transitive on them, so is the one by which rows of them are. -/
namespace TestBench

variable {α β : Type} {r : α → α → Prop} {q : α → Prop}

/-- Among things of a sort, a thing is related to those that are related to it; and if it is related to
one, then to the same ones as that. -/
structure Coherent (r : α → α → Prop) (q : α → Prop) (x : α) : Prop where
  symm : ∀ {y}, q y → (r x y ↔ r y x)
  congr : ∀ {y z}, q y → q z → r x y → (r y z ↔ r x z)

/-- A thing that is related to some other one is related to itself. -/
lemma Coherent.self_of {x y : α} (h : Coherent r q x) (hx : q x) (hy : q y) (hxy : r x y) : r x x :=
  (h.congr hy hx hxy).mp ((h.symm hy).mp hxy)

/-- Things that are equal are related to the same ones. -/
lemma coherent_eq (q : α → Prop) (x : α) : Coherent Eq q x where
  symm _ := eq_comm
  congr _ _ h := by rw [h]

/-- A thing that stands for another one is as coherent. Whatever is related to it stands for something
too. -/
lemma Coherent.of_standing {R : β → β → Prop} {Q : β → Prop} {stand : α → β} {x : α}
    (h : Coherent r q x) (hq : ∀ {y}, Q (stand y) → q y)
    (left : ∀ {y u}, R (stand y) u → ∃ z, u = stand z)
    (right : ∀ {y u}, R u (stand y) → ∃ z, u = stand z)
    (both : ∀ {y z}, R (stand y) (stand z) ↔ r y z) : Coherent R Q (stand x) where
  symm {u} hu := by
    constructor
    · intro hxu
      obtain ⟨y,rfl⟩ := left hxu
      exact both.mpr ((h.symm (hq hu)).mp (both.mp hxu))
    · intro hux
      obtain ⟨y,rfl⟩ := right hux
      exact both.mpr ((h.symm (hq hu)).mpr (both.mp hux))
  congr {u v} hu hv hxu := by
    obtain ⟨y,rfl⟩ := left hxu
    have hxy := both.mp hxu
    constructor
    · intro huv
      obtain ⟨z,rfl⟩ := left huv
      exact both.mpr ((h.congr (hq hu) (hq hv) hxy).mp (both.mp huv))
    · intro hxv
      obtain ⟨z,rfl⟩ := left hxv
      exact both.mpr ((h.congr (hq hu) (hq hv) hxy).mpr (both.mp hxv))

/-- Two things are coherent together if both are. -/
lemma Coherent.pair {d : α × α} (h1 : Coherent r q d.1) (h2 : Coherent r q d.2) :
    Coherent (fun d e => r d.1 e.1 ∧ r d.2 e.2) (fun e => q e.1 ∧ q e.2) d where
  symm he := and_congr (h1.symm he.1) (h2.symm he.2)
  congr he hf h := and_congr (h1.congr he.1 hf.1 h.1) (h2.congr he.2 hf.2 h.2)

/-- Rows that are compared one by one. -/
lemma Coherent.forall₂ {xs : List α} (h : ∀ x ∈ xs, Coherent r q x) :
    Coherent (List.Forall₂ r) (fun ys => ∀ y ∈ ys, q y) xs := by
  induction xs with
  | nil =>
    refine ⟨fun _ => ?_,fun _ _ hy => ?_⟩
    · rw [List.forall₂_nil_left_iff,List.forall₂_nil_right_iff]
    · rw [List.forall₂_nil_left_iff.mp hy]
  | cons x xs ih =>
    obtain ⟨hx,hxs⟩ := List.forall_mem_cons.mp h
    have htail := ih hxs
    refine ⟨fun {ys} hys => ?_,fun {ys zs} hys hzs hxy => ?_⟩
    · cases ys with
      | nil => simp
      | cons y ys =>
        obtain ⟨hy,hys⟩ := List.forall_mem_cons.mp hys
        rw [List.forall₂_cons,List.forall₂_cons,hx.symm hy,htail.symm hys]
    · cases hxy with
      | cons hxy htails =>
        obtain ⟨hy,hys⟩ := List.forall_mem_cons.mp hys
        cases zs with
        | nil => simp
        | cons z zs =>
          obtain ⟨hz,hzs⟩ := List.forall_mem_cons.mp hzs
          rw [List.forall₂_cons,List.forall₂_cons,hx.congr hy hz hxy,htail.congr hys hzs htails]

/-- There are as many of these as of those, and each of these is related to one of those. -/
def Covers (r : α → β → Prop) (xs : List α) (ys : List β) : Prop :=
  xs.length = ys.length ∧ ∀ x ∈ xs, ∃ y ∈ ys, r x y

/-- If no two of these are related to the same one, then each of those is met. -/
lemma Covers.met {r : α → β → Prop} {xs : List α} {ys : List β} (h : Covers r xs ys)
    (apart : xs.Pairwise fun x x' => ∀ y ∈ ys, r x y → ¬ r x' y) : ∀ y ∈ ys, ∃ x ∈ xs, r x y := by
  induction xs generalizing ys with
  | nil =>
    rw [List.length_eq_zero_iff.mp h.1.symm]
    nofun
  | cons x xs ih =>
    obtain ⟨hlength,hin⟩ := h
    obtain ⟨⟨y,hy,hxy⟩,hin⟩ := List.forall_mem_cons.mp hin
    obtain ⟨hhead,htail⟩ := List.pairwise_cons.mp apart
    -- Without the one that the first of these is related to, the others are still covered.
    obtain ⟨l,k,rfl⟩ := List.append_of_mem hy
    have hsub : ∀ {z}, z ∈ l ++ k → z ∈ l ++ y :: k := by
      intro z hz
      simp only [List.mem_append,List.mem_cons] at hz ⊢
      tauto
    have hrest : Covers r xs (l ++ k) := by
      refine ⟨by simp at hlength ⊢; omega,fun x' hx' => ?_⟩
      obtain ⟨z,hz,hx'z⟩ := hin x' hx'
      refine ⟨z,?_,hx'z⟩
      have hne : z ≠ y := by
        rintro rfl
        exact hhead x' hx' z hy hxy hx'z
      simp only [List.mem_append,List.mem_cons] at hz ⊢
      tauto
    have hmet := ih hrest (htail.imp fun h z hz => h z (hsub hz))
    intro z hz
    by_cases hzy : z = y
    · exact ⟨x,List.mem_cons_self,hzy ▸ hxy⟩
    · obtain ⟨x',hx',hx'z⟩ := hmet z (by simp only [List.mem_append,List.mem_cons] at hz ⊢; tauto)
      exact ⟨x',List.mem_cons_of_mem x hx',hx'z⟩

/-- The things of a sort of which no two are related. -/
def Apart (r : α → α → Prop) (q : α → Prop) (xs : List α) : Prop :=
  (∀ x ∈ xs, q x) ∧ xs.Pairwise fun x y => ¬ r x y

/-- Rows that are compared without order. -/
lemma Coherent.covers {xs : List α} (h : ∀ x ∈ xs, Coherent r q x) (hxs : Apart r q xs) :
    Coherent (Covers r) (Apart r q) xs := by
  have met {ys : List α} (hys : Apart r q ys) (hc : Covers r xs ys) : ∀ y ∈ ys, ∃ x ∈ xs, r x y := by
    refine hc.met (hxs.2.imp_of_mem fun {x x'} hx hx' hne y hy hxy hx'y => hne ?_)
    have hyx' := ((h x' hx').symm (hys.1 y hy)).mp hx'y
    exact ((h x hx).congr (hys.1 y hy) (hxs.1 x' hx') hxy).mp hyx'
  refine ⟨fun {ys} hys => ⟨fun hc => ?_,fun hc => ?_⟩,fun {ys zs} hys hzs hc => ⟨fun hk => ?_,fun hk => ?_⟩⟩
  · refine ⟨hc.1.symm,fun y hy => ?_⟩
    obtain ⟨x,hx,hxy⟩ := met hys hc y hy
    exact ⟨x,hx,((h x hx).symm (hys.1 y hy)).mp hxy⟩
  · have hmet : ∀ x ∈ xs, ∃ y ∈ ys, r y x := by
      refine hc.met (hys.2.imp_of_mem fun {y y'} hy hy' hne x hx hyx hy'x => hne ?_)
      have hxy := ((h x hx).symm (hys.1 y hy)).mpr hyx
      exact ((h x hx).congr (hys.1 y hy) (hys.1 y' hy') hxy).mpr
        (((h x hx).symm (hys.1 y' hy')).mpr hy'x)
    refine ⟨hc.1.symm,fun x hx => ?_⟩
    obtain ⟨y,hy,hyx⟩ := hmet x hx
    exact ⟨y,hy,((h x hx).symm (hys.1 y hy)).mpr hyx⟩
  · refine ⟨hc.1.trans hk.1,fun x hx => ?_⟩
    obtain ⟨y,hy,hxy⟩ := hc.2 x hx
    obtain ⟨z,hz,hyz⟩ := hk.2 y hy
    exact ⟨z,hz,((h x hx).congr (hys.1 y hy) (hzs.1 z hz) hxy).mp hyz⟩
  · refine ⟨hc.1.symm.trans hk.1,fun y hy => ?_⟩
    obtain ⟨x,hx,hxy⟩ := met hys hc y hy
    obtain ⟨z,hz,hxz⟩ := hk.2 x hx
    exact ⟨z,hz,((h x hx).congr (hys.1 y hy) (hzs.1 z hz) hxy).mpr hxz⟩

lemma covers_self_iff {xs : List α} (h : ∀ x ∈ xs, Coherent r q x) (hxs : ∀ x ∈ xs, q x) :
    Covers r xs xs ↔ ∀ x ∈ xs, r x x := by
  refine ⟨fun hc x hx => ?_,fun hself => ⟨rfl,fun x hx => ⟨x,hx,hself x hx⟩⟩⟩
  obtain ⟨y,hy,hxy⟩ := hc.2 x hx
  exact (h x hx).self_of (hxs x hx) (hxs y hy) hxy

end TestBench
